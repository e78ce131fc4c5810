import FrameLink.Text.Hexadecimal
import FrameLink.Text.Printable

/-!
# Quoted text

Text in double quotes for a message. The quote, the backslash and the four common controls have
short escapes; whatever else does not show itself is written by its code point.
-/

namespace FrameLink.Text

/-- One character inside quotes. -/
def quoteChar (char : Char) : List Char :=
  match char with
  | '\x00' => ['\\', '0']
  | '\t' => ['\\', 't']
  | '\r' => ['\\', 'r']
  | '\n' => ['\\', 'n']
  | '"' => ['\\', '"']
  | '\\' => ['\\', '\\']
  | char =>
      if isPrintable char then [char]
      else ['\\', 'u', '\x7b'] ++ hexDigits char.toNat ++ ['\x7d']

/-- A text in quotes. -/
def quote (text : String) : String :=
  String.ofList ('"' :: text.toList.flatMap quoteChar ++ ['"'])

end FrameLink.Text

import FrameLink.Text.Decimal
import FrameLink.Text.Hexadecimal

/-!
# Writing JSON

Strings, and objects whose members keep their order, on one line or with one member a line.
-/

namespace FrameLink.Json

/-- One character inside a string: quotes, backslashes and controls are escaped, and all else
stands as it is. -/
def escapeChar (char : Char) : List Char :=
  match char with
  | '"' => ['\\', '"']
  | '\\' => ['\\', '\\']
  | '\x08' => ['\\', 'b']
  | '\x0C' => ['\\', 'f']
  | '\n' => ['\\', 'n']
  | '\r' => ['\\', 'r']
  | '\t' => ['\\', 't']
  | char =>
      if char.toNat < 0x20 then '\\' :: 'u' :: Text.hexWord 4 char.toNat else [char]

/-- A string. -/
def stringText (text : String) : List Char :=
  '"' :: text.toList.flatMap escapeChar ++ ['"']

/-- A truth value. -/
def boolText (value : Bool) : List Char :=
  (if value then "true" else "false").toList

/-- A member of an object: its name and the text of its value. -/
structure Member where
  name : String
  value : List Char
  deriving DecidableEq, Repr

/-- An object on one line. -/
def compactObject (members : List Member) : List Char :=
  '\x7b' :: List.intercalate [','] (members.map fun member =>
    stringText member.name ++ ':' :: member.value) ++ ['\x7d']

/-- An object with one member a line, two spaces in front of each. -/
def prettyObject (members : List Member) : List Char :=
  '\x7b' :: List.intercalate [','] (members.map fun member =>
    '\n' :: ' ' :: ' ' :: stringText member.name ++ ':' :: ' ' :: member.value) ++ ['\n', '\x7d']

end FrameLink.Json

import FrameLink.Json.Numeral
import FrameLink.Text.Hexadecimal

/-!
# JSON tokens

The tokens of JSON text. Scanning never fails: where the text is no token, the token `malformed`
ends the list, so that a reader of tokens meets what is wrong in the order of the text.
-/

namespace FrameLink.Json

open FrameLink.Text (hexValue? isDigit)

/-- A piece of a string: a character as it stands, or a code unit written as an escape. -/
inductive Piece where
  | char (char : Char)
  | unit (code : Nat)
  deriving DecidableEq, Repr

/-- A token of JSON text. -/
inductive Token where
  | openBrace
  | closeBrace
  | openBracket
  | closeBracket
  | colon
  | comma
  | null
  | bool (value : Bool)
  | number (numeral : Numeral)
  | string (pieces : List Piece)
  | malformed
  deriving DecidableEq, Repr

/-! ## Strings -/

/-- The code unit that four hexadecimal digits stand for. -/
def codeUnit? (a b c d : Char) : Option Nat :=
  match hexValue? a, hexValue? b, hexValue? c, hexValue? d with
  | some a, some b, some c, some d => some (((a * 16 + b) * 16 + c) * 16 + d)
  | _, _, _, _ => none

/-- The character that a letter behind a backslash stands for. -/
def shortEscape? : Char → Option Char
  | '"' => some '"'
  | '\\' => some '\\'
  | '/' => some '/'
  | 'b' => some '\x08'
  | 'f' => some '\x0C'
  | 'n' => some '\n'
  | 'r' => some '\r'
  | 't' => some '\t'
  | _ => none

/-- Splits the rest of a string off, up to and including the closing quote. -/
def takeString? : List Char → Option (List Piece × List Char)
  | [] => none
  | '"' :: rest => some ([], rest)
  | '\\' :: 'u' :: a :: b :: c :: d :: rest =>
      match codeUnit? a b c d with
      | none => none
      | some code => (takeString? rest).map fun (pieces, rest) => (.unit code :: pieces, rest)
  | '\\' :: letter :: rest =>
      match shortEscape? letter with
      | none => none
      | some char => (takeString? rest).map fun (pieces, rest) => (.char char :: pieces, rest)
  | char :: rest =>
      if char = '\\' ∨ char.toNat < 0x20 then none
      else (takeString? rest).map fun (pieces, rest) => (.char char :: pieces, rest)

/-- A string is split off the front. -/
theorem length_of_takeString {chars rest : List Char} {pieces : List Piece}
    (taken : takeString? chars = some (pieces, rest)) : rest.length < chars.length := by
  fun_induction takeString? chars generalizing pieces rest with
  | case1 => simp at taken
  | case2 =>
      simp only [Option.some.injEq, Prod.mk.injEq] at taken
      simp [taken.2]
  | case3 => simp at taken
  | case4 _ _ _ _ _ _ _ ih =>
      simp only [Option.map_eq_some_iff, Prod.mk.injEq] at taken
      obtain ⟨⟨more, left⟩, split, -, rfl⟩ := taken
      have shorter := ih split
      simp only [List.length_cons]
      omega
  | case5 => simp at taken
  | case6 _ _ _ _ _ ih =>
      simp only [Option.map_eq_some_iff, Prod.mk.injEq] at taken
      obtain ⟨⟨more, left⟩, split, -, rfl⟩ := taken
      have shorter := ih split
      simp only [List.length_cons]
      omega
  | case7 => simp at taken
  | case8 _ _ _ _ _ _ ih =>
      simp only [Option.map_eq_some_iff, Prod.mk.injEq] at taken
      obtain ⟨⟨more, left⟩, split, -, rfl⟩ := taken
      have shorter := ih split
      simp only [List.length_cons]
      omega

/-- Whether a code unit is the first half of a pair. -/
def isHighHalf (code : Nat) : Bool :=
  0xD800 ≤ code && code ≤ 0xDBFF

/-- Whether a code unit is the second half of a pair. -/
def isLowHalf (code : Nat) : Bool :=
  0xDC00 ≤ code && code ≤ 0xDFFF

/-- The characters of a string, where every half has its other half behind or in front of it. -/
def text? : List Piece → Option (List Char)
  | [] => some []
  | .char char :: rest => (text? rest).map (char :: ·)
  | .unit high :: .unit low :: rest =>
      if isHighHalf high then
        if isLowHalf low then
          (text? rest).map (Char.ofNat ((high - 0xD800) * 1024 + (low - 0xDC00) + 0x10000) :: ·)
        else none
      else if isLowHalf high then none
      else (text? (.unit low :: rest)).map (Char.ofNat high :: ·)
  | .unit code :: rest =>
      if isHighHalf code || isLowHalf code then none
      else (text? rest).map (Char.ofNat code :: ·)

/-! ## Scanning -/

/-- Whether a character may stand between tokens. -/
def isSpace (char : Char) : Bool :=
  char = ' ' || char = '\n' || char = '\t' || char = '\r'

/-- Gives a token with what is left behind a word, where the word comes next. -/
def takeWord (word : List Char) (token : Token) (chars : List Char) : Token × List Char :=
  if word.isPrefixOf chars then (token, chars.drop word.length) else (.malformed, [])

/-- Gives the token that was split off, or a malformed one. -/
def orMalformed {α : Type} (token : α → Token) : Option (α × List Char) → Token × List Char
  | some (value, rest) => (token value, rest)
  | none => (.malformed, [])

/-- The token that starts with a character, and what is left behind it. -/
def takeToken (first : Char) (chars : List Char) : Token × List Char :=
  match first with
  | '\x7b' => (.openBrace, chars)
  | '\x7d' => (.closeBrace, chars)
  | '[' => (.openBracket, chars)
  | ']' => (.closeBracket, chars)
  | ':' => (.colon, chars)
  | ',' => (.comma, chars)
  | 'n' => takeWord ['u', 'l', 'l'] .null chars
  | 't' => takeWord ['r', 'u', 'e'] (.bool true) chars
  | 'f' => takeWord ['a', 'l', 's', 'e'] (.bool false) chars
  | '"' => orMalformed .string (takeString? chars)
  | '-' => orMalformed .number (takeNumeral? true chars)
  | first =>
      if isDigit first then orMalformed .number (takeNumeral? false (first :: chars))
      else (.malformed, [])

theorem length_takeWord_le (word : List Char) (token : Token) (chars : List Char) :
    (takeWord word token chars).2.length ≤ chars.length := by
  unfold takeWord
  split <;> simp

theorem length_orMalformed_le {α : Type} {token : α → Token} {taken : Option (α × List Char)}
    {bound : Nat} (shorter : ∀ value rest, taken = some (value, rest) → rest.length ≤ bound) :
    (orMalformed token taken).2.length ≤ bound := by
  cases taken with
  | none => simp [orMalformed]
  | some pair => exact shorter pair.1 pair.2 rfl

/-- Every token takes its first character at least. -/
theorem length_takeToken_le (first : Char) (chars : List Char) :
    (takeToken first chars).2.length ≤ chars.length := by
  unfold takeToken
  split
  iterate 6 · exact Nat.le_refl _
  iterate 3 · exact length_takeWord_le _ _ _
  · exact length_orMalformed_le fun _ _ taken => Nat.le_of_lt (length_of_takeString taken)
  · exact length_orMalformed_le fun _ _ taken => Nat.le_of_lt (length_of_takeNumeral taken)
  · split
    · exact length_orMalformed_le fun _ _ taken =>
        Nat.le_of_lt_succ (length_of_takeNumeral taken)
    · simp

/-- The tokens of a text. -/
def scan (chars : List Char) : List Token :=
  match chars with
  | [] => []
  | first :: rest =>
      if isSpace first then scan rest
      else
        match _ : takeToken first rest with
        | (.malformed, _) => [.malformed]
        | (token, left) => token :: scan left
  termination_by chars.length
  decreasing_by
    · simp
    · have shorter := length_takeToken_le first rest
      simp_all only [List.length_cons]
      omega

end FrameLink.Json

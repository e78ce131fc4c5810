/-!
# Hexadecimal numbers

Digits of base sixteen. They are written in lower case and read in either.
-/

namespace FrameLink.Text

/-- The hexadecimal digits of a number, without leading zeros. -/
def hexDigits (value : Nat) : List Char :=
  Nat.toDigits 16 value

/-- The last `width` hexadecimal digits of a number, zeros in front included. -/
def hexWord : (width value : Nat) → List Char
  | 0, _ => []
  | width + 1, value => hexWord width (value / 16) ++ [Nat.digitChar (value % 16)]

/-- The value of a hexadecimal digit. -/
def hexValue? (char : Char) : Option Nat :=
  if '0' ≤ char ∧ char ≤ '9' then some (char.toNat - '0'.toNat)
  else if 'a' ≤ char ∧ char ≤ 'f' then some (char.toNat - 'a'.toNat + 10)
  else if 'A' ≤ char ∧ char ≤ 'F' then some (char.toNat - 'A'.toNat + 10)
  else none

@[simp] theorem length_hexWord (width value : Nat) : (hexWord width value).length = width := by
  induction width generalizing value with
  | zero => rfl
  | succ width ih => simp [hexWord, ih]

/-- A digit that was written is read back. -/
theorem hexValue_digitChar {value : Nat} (small : value < 16) :
    hexValue? (Nat.digitChar value) = some value := by
  revert value
  decide

end FrameLink.Text

/-!
# Decimal numbers

Reading and writing unsigned decimal numbers of a bounded range.
-/

namespace FrameLink.Text

/-- The decimal digits of a number. -/
def decimal (value : Nat) : List Char :=
  Nat.toDigits 10 value

/-- Whether a character is one of the ten digits. -/
def isDigit (char : Char) : Bool :=
  '0' ≤ char && char ≤ '9'

/-- The value of a digit. -/
def digitValue (char : Char) : Nat :=
  char.toNat - '0'.toNat

/-- The number that digits stand for. -/
def ofDigits (digits : List Char) : Nat :=
  digits.foldl (fun value digit => value * 10 + digitValue digit) 0

/-- The number that digits stand for behind a number, where it is below the limit. Digits never make
a number smaller, so what has reached the limit is not read on. -/
def appendDigits? (limit value : Nat) : List Char → Option Nat
  | [] => if value < limit then some value else none
  | digit :: digits =>
      if value < limit then appendDigits? limit (value * 10 + digitValue digit) digits else none

/-- The number that digits stand for, where it is below the limit. -/
def ofDigits? (limit : Nat) (digits : List Char) : Option Nat :=
  appendDigits? limit 0 digits

theorem le_foldl_digitValue (value : Nat) (digits : List Char) :
    value ≤ digits.foldl (fun value digit => value * 10 + digitValue digit) value := by
  induction digits generalizing value with
  | nil => simp
  | cons digit digits ih =>
      simp only [List.foldl_cons]
      have further := ih (value * 10 + digitValue digit)
      omega

theorem appendDigits?_eq_ite (limit value : Nat) (digits : List Char) :
    appendDigits? limit value digits =
      if digits.foldl (fun value digit => value * 10 + digitValue digit) value < limit then
        some (digits.foldl (fun value digit => value * 10 + digitValue digit) value)
      else none := by
  induction digits generalizing value with
  | nil => rfl
  | cons digit digits ih =>
      simp only [appendDigits?, List.foldl_cons, ih]
      have further := le_foldl_digitValue (value * 10 + digitValue digit) digits
      split
      · rfl
      · exact (if_neg (by omega)).symm

/-- Reading up to a limit is reading, and comparing with the limit. -/
theorem ofDigits?_eq_ite (limit : Nat) (digits : List Char) :
    ofDigits? limit digits =
      if ofDigits digits < limit then some (ofDigits digits) else none :=
  appendDigits?_eq_ite limit 0 digits

/-- Reads at least one digit and nothing else, where the number is below the limit. -/
def readDigits? (limit : Nat) (chars : List Char) : Option Nat :=
  if !chars.isEmpty && chars.all isDigit then ofDigits? limit chars else none

/-- Reads a number below the limit: one plus sign may stand in front, then come one or more digits
and nothing else. -/
def readUnsigned? (limit : Nat) : List Char → Option Nat
  | '+' :: digits => readDigits? limit digits
  | digits => readDigits? limit digits

/-- The first number that does not fit 8 bits. -/
def limit8 : Nat := 0x100

/-- The first number that does not fit 32 bits. -/
def limit32 : Nat := 0x100000000

/-- The first number that does not fit 64 bits. -/
def limit64 : Nat := 0x10000000000000000

end FrameLink.Text

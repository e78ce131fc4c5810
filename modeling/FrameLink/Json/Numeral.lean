import FrameLink.Number.Shortest
import FrameLink.Text.Decimal

/-!
# JSON numerals

The spelling of a number in JSON text and the value it is read as: an integer where it is written
as one and fits 64 bits, and a binary64 number otherwise.
-/

namespace FrameLink.Json

open FrameLink.Number (Binary64)
open FrameLink.Text (isDigit digitValue ofDigits? limit64)

/-- The spelling of a number. -/
structure Numeral where
  negative : Bool
  whole : List Char
  fraction : Option (List Char)
  exponent : Option Int
  deriving DecidableEq, Repr

/-- The value of a number. -/
inductive Number where
  | natural (value : Nat)
  | negative (magnitude : Nat)
  | float (below : Bool) (magnitude : Binary64)
  deriving DecidableEq, Repr

/-! ## Spelling -/

/-- Splits the leading digits off, of which there must be one. -/
def takeDigits? (chars : List Char) : Option (List Char × List Char) :=
  let digits := chars.takeWhile isDigit
  if digits.isEmpty then none else some (digits, chars.dropWhile isDigit)

/-- The whole part: a zero alone, or digits that do not start with one. -/
def takeWhole? (chars : List Char) : Option (List Char × List Char) :=
  match takeDigits? chars with
  | some ('0' :: _ :: _, _) => none
  | other => other

/-- The digits after a point, where there is one. -/
def takeFraction? : List Char → Option (Option (List Char) × List Char)
  | '.' :: chars => (takeDigits? chars).map fun (digits, rest) => (some digits, rest)
  | chars => some (none, chars)

/-- The number of places that an exponent stands for. One that does not fit 64 bits counts as the
first that does not: no spelling has so many digits that it could make up for it. -/
def placesOf (digits : List Char) : Nat :=
  (ofDigits? limit64 digits).getD limit64

/-- A sign, where there is one, and the digits behind it. -/
def takeSigned? : List Char → Option (Int × List Char)
  | '+' :: chars => (takeDigits? chars).map fun (digits, rest) => ((placesOf digits : Int), rest)
  | '-' :: chars => (takeDigits? chars).map fun (digits, rest) => (-(placesOf digits : Int), rest)
  | chars => (takeDigits? chars).map fun (digits, rest) => ((placesOf digits : Int), rest)

/-- The exponent, where there is one. -/
def takeExponent? : List Char → Option (Option Int × List Char)
  | 'e' :: chars => (takeSigned? chars).map fun (exponent, rest) => (some exponent, rest)
  | 'E' :: chars => (takeSigned? chars).map fun (exponent, rest) => (some exponent, rest)
  | chars => some (none, chars)

/-- Splits a numeral off that has the sign in front of it. -/
def takeNumeral? (negative : Bool) (chars : List Char) : Option (Numeral × List Char) :=
  match takeWhole? chars with
  | none => none
  | some (whole, chars) =>
      match takeFraction? chars with
      | none => none
      | some (fraction, chars) =>
          match takeExponent? chars with
          | none => none
          | some (exponent, rest) => some (⟨negative, whole, fraction, exponent⟩, rest)

/-! ### What is left is shorter -/

theorem length_of_takeDigits {chars digits rest : List Char}
    (taken : takeDigits? chars = some (digits, rest)) : rest.length < chars.length := by
  simp only [takeDigits?] at taken
  split at taken
  · simp at taken
  next some_digit =>
    simp only [Option.some.injEq, Prod.mk.injEq] at taken
    have whole : (chars.takeWhile isDigit ++ chars.dropWhile isDigit).length = chars.length := by
      rw [List.takeWhile_append_dropWhile]
    have positive : 0 < (chars.takeWhile isDigit).length :=
      List.length_pos_iff.2 (by simpa using some_digit)
    rw [List.length_append, taken.2] at whole
    omega

theorem length_of_takeWhole {chars digits rest : List Char}
    (taken : takeWhole? chars = some (digits, rest)) : rest.length < chars.length := by
  unfold takeWhole? at taken
  split at taken
  · simp at taken
  · exact length_of_takeDigits taken

theorem length_of_takeFraction {chars rest : List Char} {fraction : Option (List Char)}
    (taken : takeFraction? chars = some (fraction, rest)) : rest.length ≤ chars.length := by
  unfold takeFraction? at taken
  split at taken
  · simp only [Option.map_eq_some_iff, Prod.mk.injEq] at taken
    obtain ⟨⟨digits, left⟩, split, -, rfl⟩ := taken
    have shorter := length_of_takeDigits split
    simp only [List.length_cons]
    omega
  · simp only [Option.some.injEq, Prod.mk.injEq] at taken
    exact Nat.le_of_eq (congrArg List.length taken.2.symm)

theorem length_of_takeSigned {chars rest : List Char} {exponent : Int}
    (taken : takeSigned? chars = some (exponent, rest)) : rest.length ≤ chars.length := by
  unfold takeSigned? at taken
  split at taken <;>
    simp only [Option.map_eq_some_iff, Prod.mk.injEq] at taken <;>
    obtain ⟨⟨digits, left⟩, split, -, rfl⟩ := taken <;>
    have shorter := length_of_takeDigits split <;>
    simp only [List.length_cons] at * <;>
    omega

theorem length_of_takeExponent {chars rest : List Char} {exponent : Option Int}
    (taken : takeExponent? chars = some (exponent, rest)) : rest.length ≤ chars.length := by
  unfold takeExponent? at taken
  split at taken
  · simp only [Option.map_eq_some_iff, Prod.mk.injEq] at taken
    obtain ⟨⟨digits, left⟩, split, -, rfl⟩ := taken
    have shorter := length_of_takeSigned split
    simp only [List.length_cons]
    omega
  · simp only [Option.map_eq_some_iff, Prod.mk.injEq] at taken
    obtain ⟨⟨digits, left⟩, split, -, rfl⟩ := taken
    have shorter := length_of_takeSigned split
    simp only [List.length_cons]
    omega
  · simp only [Option.some.injEq, Prod.mk.injEq] at taken
    exact Nat.le_of_eq (congrArg List.length taken.2.symm)

/-- A numeral is split off the front. -/
theorem length_of_takeNumeral {negative : Bool} {chars rest : List Char} {numeral : Numeral}
    (taken : takeNumeral? negative chars = some (numeral, rest)) :
    rest.length < chars.length := by
  unfold takeNumeral? at taken
  split at taken
  · simp at taken
  next whole =>
    split at taken
    · simp at taken
    next fraction =>
      split at taken
      · simp at taken
      next exponent =>
        simp only [Option.some.injEq, Prod.mk.injEq] at taken
        have first := length_of_takeWhole whole
        have second := length_of_takeFraction fraction
        have third := length_of_takeExponent exponent
        rw [← taken.2]
        omega

/-! ## Value -/

/-- Gathers digits onto a significand as long as it fits 64 bits, and gives back those that no
longer do. -/
def gather (significand : Nat) : List Char → Nat × List Char
  | [] => (significand, [])
  | digit :: digits =>
      if significand * 10 + digitValue digit < limit64 then
        gather (significand * 10 + digitValue digit) digits
      else (significand, digit :: digits)

namespace Numeral

/-- The binary64 number that a numeral is read as, or nothing where it is out of range. Of the
significand only as many leading digits count as fit 64 bits; the rest of the whole part counts
for its places alone. -/
def magnitude? (numeral : Numeral) : Option Binary64 :=
  let fraction := numeral.fraction.getD []
  let (whole, beyond) := gather 0 numeral.whole
  let (significand, unread) := gather whole fraction
  let places : Int := beyond.length - (fraction.length - unread.length : Nat)
  Binary64.ofDecimal? significand (places + numeral.exponent.getD 0)

/-- The integer that a numeral spells, where it is written as one and fits 64 bits. A negative zero
is none. -/
def integer? (numeral : Numeral) : Option Number :=
  match numeral.fraction, numeral.exponent, ofDigits? limit64 numeral.whole with
  | none, none, some whole =>
      if !numeral.negative then some (.natural whole)
      else if whole ≠ 0 ∧ whole ≤ limit64 / 2 then some (.negative whole)
      else none
  | _, _, _ => none

/-- The value of a numeral, or nothing where it is out of range. -/
def value? (numeral : Numeral) : Option Number :=
  numeral.integer?.or (numeral.magnitude?.map (.float numeral.negative))

end Numeral

/-- Floating point numbers show a point or an exponent, which begins below the fifth place behind
the point and above the sixteenth before it. -/
def floatLayout : Number.Layout where
  leastPlain := -5
  greatestPlain := 15

/-- The text of a binary64 number with a sign. -/
def floatText (negative : Bool) (magnitude : Binary64) : String :=
  (if negative then "-" else "") ++ floatLayout.render magnitude.shortest

end FrameLink.Json

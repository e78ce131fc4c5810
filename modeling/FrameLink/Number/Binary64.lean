/-!
# Binary64 numbers

Finite numbers of the format with 53 bits of precision, without their sign, and rounding to them.
Every operation is an exact fraction rounded once to the nearest number, a tie going to the even
neighbour.
-/

namespace FrameLink.Number

/-- The number `mantissa · 2 ^ exponent`. -/
structure Binary64 where
  mantissa : Nat
  exponent : Int
  deriving DecidableEq, Repr

/-- A nonnegative fraction. -/
structure Fraction where
  numerator : Nat
  denominator : Nat
  deriving DecidableEq, Repr

namespace Fraction

/-- The fraction times a power of two. -/
def scale (fraction : Fraction) (exponent : Int) : Fraction :=
  ⟨fraction.numerator * Nat.pow 2 exponent.toNat,
    fraction.denominator * Nat.pow 2 (-exponent).toNat⟩

/-- The nearest integer, a tie going to the even one. -/
def nearestEven (fraction : Fraction) : Nat :=
  let quotient := fraction.numerator / fraction.denominator
  let doubled := 2 * (fraction.numerator % fraction.denominator)
  if doubled < fraction.denominator ∨ doubled = fraction.denominator ∧ quotient % 2 = 0 then
    quotient
  else quotient + 1

/-- The exponent of the largest power of two that is not above a positive fraction. -/
def log2 (fraction : Fraction) : Int :=
  let guess : Int := fraction.numerator.log2 - fraction.denominator.log2
  let scaled := fraction.scale (-guess)
  if scaled.numerator < scaled.denominator then guess - 1 else guess

end Fraction

namespace Binary64

/-- The exponent of the smallest numbers. -/
def leastExponent : Int := -1074

/-- The exponent of the largest numbers. -/
def greatestExponent : Int := 971

/-- The least mantissa of full precision, which is a power of two. -/
def leastFull : Nat := 0x10000000000000

/-- Zero. -/
def zero : Binary64 := ⟨0, leastExponent⟩

/-- The number as a fraction. -/
def toFraction (value : Binary64) : Fraction :=
  Fraction.scale ⟨value.mantissa, 1⟩ value.exponent

/-- The number nearest to a fraction, or nothing where it is out of range. -/
def nearest? (fraction : Fraction) : Option Binary64 :=
  if fraction.numerator = 0 then some zero
  else
    let exponent := max leastExponent (fraction.log2 - 52)
    let mantissa := (fraction.scale (-exponent)).nearestEven
    let rounded : Binary64 :=
      if mantissa = 2 * leastFull then ⟨leastFull, exponent + 1⟩ else ⟨mantissa, exponent⟩
    if rounded.exponent ≤ greatestExponent then some rounded else none

/-- The number nearest to a product. -/
def mul? (left right : Binary64) : Option Binary64 :=
  let left := left.toFraction
  let right := right.toFraction
  nearest? ⟨left.numerator * right.numerator, left.denominator * right.denominator⟩

/-- The number nearest to a quotient. -/
def div? (left right : Binary64) : Option Binary64 :=
  let left := left.toFraction
  let right := right.toFraction
  nearest? ⟨left.numerator * right.denominator, left.denominator * right.numerator⟩

/-- The number nearest to a power of ten. -/
def powTen? (exponent : Nat) : Option Binary64 :=
  nearest? ⟨Nat.pow 10 exponent, 1⟩

/-- The greatest power of ten in range. -/
def greatestPower : Nat := 308

/-- Divides by the greatest power of ten in range. -/
def shrink? (value : Binary64) : Option Binary64 :=
  match powTen? greatestPower with
  | none => none
  | some power => value.div? power

/-- Multiplies by a power of ten with one rounding for the power and one for the product; below
the least power in range it divides in at most `steps` steps. -/
def timesPowTen? (value : Binary64) (exponent : Int) : (steps : Nat) → Option Binary64
  | 0 => none
  | steps + 1 =>
      if exponent.natAbs ≤ greatestPower then
        match powTen? exponent.natAbs with
        | none => none
        | some power => if 0 ≤ exponent then value.mul? power else value.div? power
      else if value.mantissa = 0 then some zero
      else if 0 ≤ exponent then none
      else
        match value.shrink? with
        | none => none
        | some quotient => timesPowTen? quotient (exponent + greatestPower) steps

/-- The number that a decimal significand and exponent are read as. -/
def ofDecimal? (significand : Nat) (exponent : Int) : Option Binary64 :=
  (nearest? ⟨significand, 1⟩).bind (timesPowTen? · exponent (exponent.natAbs + 1))

end Binary64

end FrameLink.Number

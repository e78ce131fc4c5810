import FrameLink.Number.Binary64
import FrameLink.Text.Decimal

/-!
# Shortest decimals

The decimal with the fewest digits that reads back to a binary64 number, and its layout in text.
The search is exact: on the grid of one, two, … digits it tries the two neighbours of the value,
and the first grid with a neighbour inside the rounding interval wins.
-/

namespace FrameLink.Number

/-- The number `significand · 10 ^ exponent`. -/
structure Decimal where
  significand : Nat
  exponent : Int
  deriving DecidableEq, Repr

namespace Decimal

/-- The decimal as a fraction. -/
def toFraction (decimal : Decimal) : Fraction :=
  ⟨decimal.significand * Nat.pow 10 decimal.exponent.toNat,
    Nat.pow 10 (-decimal.exponent).toNat⟩

/-- Moves up to `steps` trailing zeros of the significand into the exponent. -/
def strip : (steps : Nat) → Decimal → Decimal
  | 0, decimal => decimal
  | steps + 1, decimal =>
      if decimal.significand % 10 = 0 ∧ decimal.significand ≠ 0 then
        strip steps ⟨decimal.significand / 10, decimal.exponent + 1⟩
      else decimal

end Decimal

namespace Fraction

/-- Whether one fraction is below another. -/
def lt (left right : Fraction) : Bool :=
  left.numerator * right.denominator < right.numerator * left.denominator

/-- The distance between two fractions. -/
def distance (left right : Fraction) : Fraction :=
  let a := left.numerator * right.denominator
  let b := right.numerator * left.denominator
  ⟨(a - b) + (b - a), left.denominator * right.denominator⟩

/-- The exponent of the largest power of ten that is not above a fraction, searched downwards from
a bound for a number of steps. -/
def log10From (fraction : Fraction) : (steps : Nat) → (bound : Int) → Int
  | 0, bound => bound
  | steps + 1, bound =>
      if fraction.lt (Decimal.toFraction ⟨1, bound⟩) then log10From fraction steps (bound - 1)
      else bound

/-- The exponent of the largest power of ten that is not above a positive binary64 number. -/
def log10 (fraction : Fraction) : Int :=
  log10From fraction 640 309

end Fraction

namespace Binary64

/-- The ends of the interval of numbers that round to a positive value. -/
def interval (value : Binary64) : Fraction × Fraction :=
  let below :=
    if value.mantissa = leastFull ∧ leastExponent < value.exponent then 1 else 2
  (Fraction.scale ⟨4 * value.mantissa - below, 4⟩ value.exponent,
    Fraction.scale ⟨4 * value.mantissa + 2, 4⟩ value.exponent)

/-- Whether a decimal rounds to a positive value; the ends of the interval do where the mantissa is
even. -/
def readsBack (value : Binary64) (decimal : Decimal) : Bool :=
  let (low, high) := value.interval
  let point := decimal.toFraction
  if value.mantissa % 2 = 0 then !point.lt low && !high.lt point
  else low.lt point && point.lt high

/-- The neighbour of a positive value with the number of digits that reads back, the nearer one
where both do. -/
def withDigits? (value : Binary64) (lead : Int) (count : Nat) : Option Decimal :=
  let exponent := lead - count + 1
  let exact := value.toFraction
  let unit := Decimal.toFraction ⟨1, exponent⟩
  let quotient :=
    exact.numerator * unit.denominator / (exact.denominator * unit.numerator)
  let low : Decimal := ⟨quotient, exponent⟩
  let high : Decimal := ⟨quotient + 1, exponent⟩
  match value.readsBack low, value.readsBack high with
  | true, true =>
      let toLow := exact.distance low.toFraction
      let toHigh := exact.distance high.toFraction
      if toLow.lt toHigh || (!toHigh.lt toLow && quotient % 2 = 0) then some low else some high
  | true, false => some low
  | false, true => some high
  | false, false => none

/-- The shortest decimal that reads back. -/
def shortest (value : Binary64) : Decimal :=
  if value.mantissa = 0 then ⟨0, 0⟩
  else
    let lead := value.toFraction.log10
    let found := (List.range 17).findSome? fun count => value.withDigits? lead (count + 1)
    Decimal.strip 17 (found.getD ⟨0, 0⟩)

end Binary64

/-! ## Layout -/

/-- How decimals are laid out: the exponents of the leading digit that are written without an
exponent. -/
structure Layout where
  leastPlain : Int
  greatestPlain : Int
  deriving DecidableEq, Repr

namespace Layout

/-- Text of a decimal: without an exponent it always shows a point, with one it shows the sign of
the exponent. -/
def render (layout : Layout) (decimal : Decimal) : String :=
  let digits := Text.decimal decimal.significand
  let lead := decimal.exponent + digits.length - 1
  if layout.leastPlain ≤ lead ∧ lead ≤ layout.greatestPlain then
    if lead < 0 then
      String.ofList ('0' :: '.' :: List.replicate (-lead - 1).toNat '0' ++ digits)
    else
      let whole := lead.toNat + 1
      let padded := digits ++ List.replicate (whole - digits.length) '0'
      let places := padded.drop whole
      String.ofList (padded.take whole ++ '.' :: if places.isEmpty then ['0'] else places)
  else
    let places := digits.drop 1
    String.ofList (digits.take 1 ++ (if places.isEmpty then [] else '.' :: places) ++
      ['e', if lead < 0 then '-' else '+'] ++ Text.decimal lead.natAbs)

end Layout

end FrameLink.Number

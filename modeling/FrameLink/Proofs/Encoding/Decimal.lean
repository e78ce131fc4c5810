import FrameLink.Text.Decimal

/-!
# Numbers come back from their decimal digits

A reader with a limit takes exactly the texts of numbers below the limit: digits, and a plus sign in
front of them or none (`readUnsigned?_eq_some_iff`). A number is written in digits alone, and they
stand for it, so it is read back.
-/

namespace FrameLink.Text

/-- A fact of every digit follows from the ten of them. -/
theorem forall_digit (holds : Char → Prop)
    (ten : ∀ code < 0x3A, 0x30 ≤ code → holds (Char.ofNat code)) {char : Char}
    (digit : isDigit char = true) : holds char := by
  simp only [isDigit, Bool.and_eq_true, decide_eq_true_eq] at digit
  have low : 0x30 ≤ char.toNat := digit.1
  have high : char.toNat ≤ 0x39 := digit.2
  rw [← Char.ofNat_toNat char]
  exact ten char.toNat (by omega) low

theorem isDigit_of_mem_decimal (value : Nat) {char : Char} (inside : char ∈ decimal value) :
    isDigit char = true :=
  Nat.isDigit_of_mem_toDigits (by decide) (by decide) inside

theorem decimal_ne_nil (value : Nat) : decimal value ≠ [] :=
  Nat.toDigits_ne_nil

theorem ofDigits_eq_ofDigitChars (text : List Char) :
    ofDigits text = Nat.ofDigitChars 10 text 0 := by
  have place : (fun value digit => value * 10 + digitValue digit) =
      fun value (digit : Char) => 10 * value + (digit.toNat - '0'.toNat) := by
    funext value digit
    rw [digitValue, Nat.mul_comm]
  rw [ofDigits, place, Nat.ofDigitChars]

@[simp] theorem ofDigits_decimal (value : Nat) : ofDigits (decimal value) = value := by
  rw [ofDigits_eq_ofDigitChars]
  exact Nat.ofDigitChars_ten_toDigits

/-- No zero stands in front of other digits. -/
theorem decimal_ne_zero_cons (value : Nat) (char : Char) (rest : List Char) :
    decimal value ≠ '0' :: char :: rest := by
  induction value using Nat.strongRecOn generalizing char rest with
  | ind value ih =>
      intro long
      rcases Nat.lt_or_ge value 10 with small | large
      · rw [decimal, Nat.toDigits_of_lt_base small, List.cons.injEq] at long
        cases long.2
      · rw [decimal, Nat.toDigits_of_base_le (by decide) large] at long
        cases front : decimal (value / 10) with
        | nil => exact decimal_ne_nil _ front
        | cons first others =>
            rw [← decimal, front, List.cons_append, List.cons.injEq] at long
            rw [long.1] at front
            cases others with
            | nil =>
                have zero := ofDigits_decimal (value / 10)
                rw [front] at zero
                have single : ofDigits ['0'] = 0 := rfl
                omega
            | cons second others => exact ih (value / 10) (by omega) second others front

/-! ## Texts of numbers -/

/-- Digits that stand for a number. -/
structure Digits (text : List Char) (value : Nat) : Prop where
  nonempty : text ≠ []
  digits : ∀ char ∈ text, char.isDigit = true
  value : Nat.ofDigitChars 10 text 0 = value

/-- The text of an unsigned number. A plus sign may stand in front of its digits. -/
inductive Unsigned : List Char → Nat → Prop
  | plain {text : List Char} {value : Nat} (read : Digits text value) : Unsigned text value
  | plus {text : List Char} {value : Nat} (read : Digits text value) :
      Unsigned ('+' :: text) value

theorem Digits.not_mem {text : List Char} {value : Nat} (read : Digits text value) {char : Char}
    (digit : char.isDigit = false) : char ∉ text := by
  intro inside
  rw [read.digits char inside] at digit
  cases digit

theorem Unsigned.not_mem {text : List Char} {value : Nat} (unsigned : Unsigned text value)
    {char : Char} (digit : char.isDigit = false) (plus : char ≠ '+') : char ∉ text := by
  cases unsigned with
  | plain read => exact read.not_mem digit
  | plus read => exact List.not_mem_cons_of_ne_of_not_mem plus (read.not_mem digit)

theorem Unsigned.ne_nil {text : List Char} {value : Nat} (unsigned : Unsigned text value) :
    text ≠ [] := by
  cases unsigned with
  | plain read => exact read.nonempty
  | plus read => exact List.cons_ne_nil _ _

section

variable {limit value : Nat} {text : List Char}

/-- Digits are read up to the limit and not from there on. -/
theorem readDigits?_eq_some_iff :
    readDigits? limit text = some value ↔ Digits text value ∧ value < limit := by
  have shape : (!text.isEmpty && text.all isDigit) = true ↔
      text ≠ [] ∧ ∀ char ∈ text, char.isDigit = true := by
    rw [Bool.and_eq_true, Bool.not_eq_true', List.isEmpty_eq_false_iff, List.all_eq_true]
    rfl
  rw [readDigits?, ofDigits?_eq_ite, ofDigits_eq_ofDigitChars]
  split
  next shaped =>
    obtain ⟨nonempty, digits⟩ := shape.mp shaped
    rw [Option.ite_none_right_eq_some, Option.some.injEq]
    constructor
    · rintro ⟨fits, rfl⟩
      exact ⟨⟨nonempty, digits, rfl⟩, fits⟩
    · rintro ⟨read, fits⟩
      rw [read.value]
      exact ⟨fits, rfl⟩
  next misshaped =>
    apply iff_of_false
    · intro same
      cases same
    · intro read
      exact misshaped (shape.mpr ⟨read.1.nonempty, read.1.digits⟩)

theorem not_digits_plus_cons : ¬Digits ('+' :: text) value :=
  fun read => read.not_mem rfl List.mem_cons_self

theorem readUnsigned?_eq_some_iff :
    readUnsigned? limit text = some value ↔ Unsigned text value ∧ value < limit := by
  unfold readUnsigned?
  split
  next digits =>
    rw [readDigits?_eq_some_iff]
    constructor
    · intro read
      exact ⟨.plus read.1, read.2⟩
    · rintro ⟨unsigned, fits⟩
      cases unsigned with
      | plain read => exact (not_digits_plus_cons read).elim
      | plus read => exact ⟨read, fits⟩
  next text unsigned =>
    rw [readDigits?_eq_some_iff]
    constructor
    · intro read
      exact ⟨.plain read.1, read.2⟩
    · rintro ⟨unsigned', fits⟩
      cases unsigned' with
      | plain read => exact ⟨read, fits⟩
      | plus read => exact (unsigned _ rfl).elim

end

theorem digits_decimal (value : Nat) : Digits (decimal value) value where
  nonempty := decimal_ne_nil value
  digits := fun _ => isDigit_of_mem_decimal value
  value := Nat.ofDigitChars_ten_toDigits

theorem readDigits?_decimal (limit value : Nat) :
    readDigits? limit (decimal value) = if value < limit then some value else none := by
  ext other
  rw [readDigits?_eq_some_iff, Option.ite_none_right_eq_some, Option.some.injEq]
  constructor
  · rintro ⟨digits, fits⟩
    have same : value = other := (digits_decimal value).value.symm.trans digits.value
    exact ⟨same ▸ fits, same⟩
  · rintro ⟨fits, rfl⟩
    exact ⟨digits_decimal value, fits⟩

/-- No sign stands in front of the digits. -/
theorem readUnsigned?_decimal (limit value : Nat) :
    readUnsigned? limit (decimal value) = if value < limit then some value else none := by
  unfold readUnsigned?
  split
  next rest signed => exact (not_digits_plus_cons (signed ▸ digits_decimal value)).elim
  next => exact readDigits?_decimal limit value

end FrameLink.Text

import FrameLink.Command.Duration
import FrameLink.Proofs.Encoding.Decimal
import FrameLink.Proofs.Encoding.Trimming

/-!
# The texts of durations

A duration is stated as an amount, which is a number with the name of a unit behind it. The name may
be left out, and one name ends in the other; but a number has none of their letters, so that there
is one way to divide a text (`amount_iff`). The amount in a text tells what is read, and a text
without one is refused (`ofText_of_amount`, `exists_fault_of_no_amount`). So the texts that state a
duration are read, and no others (`ofText_exact`).
-/

namespace FrameLink.Command.Duration

open FrameLink.Text (Digits Trims Unsigned decimal digits_decimal forall_digit isBlank
  isDigit_of_mem_decimal limit64 readUnsigned? readUnsigned?_eq_some_iff trim_of_forall trims_iff
  trims_trim)

/-! ## Names of units -/

/-- The name of a unit, and its milliseconds. Seconds need no name. -/
inductive Named : List Char → Nat → Prop
  | unnamed : Named [] 1000
  | seconds : Named ['s'] 1000
  | milliseconds : Named ['m', 's'] 1

theorem dropSuffix?_eq_some_iff {ending text front : List Char} :
    dropSuffix? ending text = some front ↔ text = front ++ ending := by
  rw [dropSuffix?, Option.ite_none_right_eq_some, List.isSuffixOf_iff_suffix, Option.some.injEq]
  constructor
  · rintro ⟨⟨before, rfl⟩, rfl⟩
    rw [List.length_append, Nat.add_sub_cancel, List.take_left]
  · rintro rfl
    rw [List.length_append, Nat.add_sub_cancel, List.take_left]
    exact ⟨List.suffix_append front ending, rfl⟩

theorem dropSuffix?_of_not_mem {ending text : List Char} {char : Char} (inside : char ∈ ending)
    (clear : char ∉ text) : dropSuffix? ending text = none := by
  apply Option.eq_none_iff_forall_ne_some.mpr
  intro front dropped
  rw [dropSuffix?_eq_some_iff.mp dropped] at clear
  exact clear (List.mem_append_right front inside)

/-- The longer name is looked for first. -/
theorem splitUnit_eq (text : List Char) :
    splitUnit text =
      match dropSuffix? ['m', 's'] text with
      | some number => (number, 1)
      | none =>
          match dropSuffix? ['s'] text with
          | some number => (number, 1000)
          | none => (text, 1000) := by
  have whole : dropSuffix? [] text = some text :=
    dropSuffix?_eq_some_iff.mpr (List.append_nil text).symm
  rw [splitUnit, units]
  cases milliseconds : dropSuffix? ['m', 's'] text with
  | some number => simp [milliseconds]
  | none =>
      cases seconds : dropSuffix? ['s'] text with
      | some number => simp [milliseconds, seconds]
      | none => simp [milliseconds, seconds, whole]

/-- A text is divided in front of the name of a unit. -/
theorem named_splitUnit (text : List Char) :
    ∃ name, text = (splitUnit text).1 ++ name ∧ Named name (splitUnit text).2 := by
  rw [splitUnit_eq]
  split
  next number milliseconds =>
    exact ⟨['m', 's'], dropSuffix?_eq_some_iff.mp milliseconds, .milliseconds⟩
  next =>
    split
    next number seconds => exact ⟨['s'], dropSuffix?_eq_some_iff.mp seconds, .seconds⟩
    next => exact ⟨[], (List.append_nil text).symm, .unnamed⟩

/-- What has none of the letters of names stands in front of the name. -/
theorem splitUnit_append {front name : List Char} {unit : Nat} (named : Named name unit)
    (clear : 'm' ∉ front ∧ 's' ∉ front) : splitUnit (front ++ name) = (front, unit) := by
  rw [splitUnit_eq]
  cases named with
  | unnamed =>
      rw [List.append_nil, dropSuffix?_of_not_mem List.mem_cons_self clear.1,
        dropSuffix?_of_not_mem List.mem_cons_self clear.2]
  | seconds =>
      -- The longer name ends in this one; only the letter in front of it tells the two apart.
      have unlike : 'm' ∉ front ++ ['s'] := by
        rw [List.mem_append, List.mem_singleton, not_or]
        exact ⟨clear.1, by decide⟩
      rw [dropSuffix?_of_not_mem List.mem_cons_self unlike, dropSuffix?_eq_some_iff.mpr rfl]
  | milliseconds => rw [dropSuffix?_eq_some_iff.mpr rfl]

theorem Named.solid {name : List Char} {unit : Nat} (named : Named name unit) :
    ∀ char ∈ name, isBlank char = false := by
  cases named with
  | unnamed => exact List.forall_mem_nil _
  | seconds => exact List.forall_mem_singleton.mpr rfl
  | milliseconds => exact List.forall_mem_cons.mpr ⟨rfl, List.forall_mem_singleton.mpr rfl⟩

/-! ## Amounts -/

/-- A text that gives an amount of a unit: a number that fits 64 bits, and the name of the unit. -/
inductive Amount : List Char → Nat → Nat → Prop
  | intro {number name : List Char} {value unit : Nat} (unsigned : Unsigned number value)
      (fits : value < UInt64.size) (named : Named name unit) : Amount (number ++ name) value unit

theorem amount_iff {text : List Char} {value unit : Nat} :
    Amount text value unit ↔
      readUnsigned? limit64 (splitUnit text).1 = some value ∧ (splitUnit text).2 = unit := by
  constructor
  · intro amount
    cases amount with
    | @intro number _ _ _ unsigned fits named =>
        have clear : 'm' ∉ number ∧ 's' ∉ number :=
          ⟨unsigned.not_mem rfl (by decide), unsigned.not_mem rfl (by decide)⟩
        rw [splitUnit_append named clear]
        exact ⟨readUnsigned?_eq_some_iff.mpr ⟨unsigned, fits⟩, rfl⟩
  · rintro ⟨read, rfl⟩
    obtain ⟨name, whole, named⟩ := named_splitUnit text
    obtain ⟨unsigned, fits⟩ := readUnsigned?_eq_some_iff.mp read
    have amount := Amount.intro unsigned fits named
    rw [← whole] at amount
    exact amount

theorem Amount.ne_nil {text : List Char} {value unit : Nat} (amount : Amount text value unit) :
    text ≠ [] := by
  cases amount with
  | intro unsigned => exact List.append_ne_nil_of_left_ne_nil unsigned.ne_nil _

/-! ## What is read -/

/-- A text that states a duration: an amount of at least one. -/
inductive States (text : List Char) : Duration → Prop
  | intro {value unit : Nat} (amount : Amount text value unit) (positive : 1 ≤ value) :
      States text ⟨value * unit⟩

/-- What is wrong with a text that states no duration. -/
inductive Faults (text : List Char) : String → Prop
  | empty (empty : text = []) : Faults text "duration must not be empty"
  | zero {unit : Nat} (amount : Amount text 0 unit) :
      Faults text "duration must be greater than zero"
  | unreadable (nonempty : text ≠ []) (noAmount : ∀ value unit, ¬Amount text value unit) :
      Faults text s!"invalid duration value: {String.ofList text}"

section

variable {input : String} {text : List Char}

theorem ofText_of_amount (trims : Trims input.toList text) {value unit : Nat}
    (amount : Amount text value unit) :
    ofText input =
      if value = 0 then .error ⟨.usage, "duration must be greater than zero"⟩
      else .ok ⟨value * unit⟩ := by
  have nonempty : text.isEmpty = false := List.isEmpty_eq_false_iff.mpr amount.ne_nil
  obtain ⟨read, divided⟩ := amount_iff.mp amount
  simp only [ofText, trims_iff.mp trims, nonempty, read, divided, Bool.false_eq_true, if_false]

theorem exists_fault_of_no_amount (trims : Trims input.toList text)
    (noAmount : ∀ value unit, ¬Amount text value unit) :
    ∃ message, Faults text message ∧ ofText input = .error ⟨.usage, message⟩ := by
  have unread : readUnsigned? limit64 (splitUnit text).1 = none := by
    apply Option.eq_none_iff_forall_ne_some.mpr
    intro value read
    exact noAmount value (splitUnit text).2 (amount_iff.mpr ⟨read, rfl⟩)
  simp only [ofText, trims_iff.mp trims, unread]
  split
  next empty => exact ⟨_, .empty (List.isEmpty_iff.mp empty), rfl⟩
  next nonempty => exact ⟨_, .unreadable (mt List.isEmpty_iff.mpr nonempty) noAmount, rfl⟩

theorem ofText_eq_ok_iff (trims : Trims input.toList text) {duration : Duration} :
    ofText input = .ok duration ↔ States text duration := by
  constructor
  · intro read
    by_cases given : ∃ value unit, Amount text value unit
    · obtain ⟨value, unit, amount⟩ := given
      rw [ofText_of_amount trims amount] at read
      split at read
      next => cases read
      next nonzero =>
        cases read
        exact .intro amount (Nat.one_le_iff_ne_zero.mpr nonzero)
    · obtain ⟨message, -, refused⟩ := exists_fault_of_no_amount trims fun value unit amount =>
        given ⟨value, unit, amount⟩
      rw [refused] at read
      cases read
  · intro states
    cases states with
    | intro amount positive =>
        rw [ofText_of_amount trims amount, if_neg (Nat.one_le_iff_ne_zero.mp positive)]

theorem exists_fault (trims : Trims input.toList text)
    (noDuration : ∀ duration, ¬States text duration) :
    ∃ message, Faults text message ∧ ofText input = .error ⟨.usage, message⟩ := by
  by_cases given : ∃ value unit, Amount text value unit
  · obtain ⟨value, unit, amount⟩ := given
    cases value with
    | zero => exact ⟨_, .zero amount, ofText_of_amount trims amount⟩
    | succ value => exact (noDuration _ (.intro amount (Nat.le_add_left 1 value))).elim
  · exact exists_fault_of_no_amount trims fun value unit amount => given ⟨value, unit, amount⟩

end

/-- A number that is written with a unit behind it states so many of them. -/
theorem states_decimal {value : Nat} {name : List Char} {unit : Nat} (positive : 1 ≤ value)
    (fits : value < UInt64.size) (named : Named name unit) :
    States (decimal value ++ name) ⟨value * unit⟩ :=
  .intro (.intro (.plain (digits_decimal value)) fits named) positive

theorem trims_decimal {value : Nat} {name : List Char} {unit : Nat} (named : Named name unit) :
    Trims (decimal value ++ name) (decimal value ++ name) := by
  apply trims_iff.mpr
  apply trim_of_forall
  intro char inside
  rcases List.mem_append.mp inside with digit | letter
  · exact forall_digit (isBlank · = false) (by decide) (isDigit_of_mem_decimal value digit)
  · exact named.solid char letter

/-- Exactly the texts that state a duration are read as it, blanks around them aside: one plus sign
or none, digits for a number of at least one that fits 64 bits, and then the name of a unit or none.
Every other text is refused for its fault. So what is written comes back, whatever the unit. -/
theorem ofText_exact :
    (∀ input duration, ofText input = .ok duration ↔
      ∃ text, Trims input.toList text ∧ States text duration) ∧
    (∀ input, (¬∃ text duration, Trims input.toList text ∧ States text duration) →
      ∃ text message, Trims input.toList text ∧ Faults text message ∧
        ofText input = .error ⟨.usage, message⟩) ∧
    ∀ value name unit, 1 ≤ value → value < UInt64.size → Named name unit →
      ofText (String.ofList (decimal value ++ name)) = .ok ⟨value * unit⟩ := by
  refine ⟨?_, ?_, ?_⟩
  · intro input duration
    constructor
    · intro read
      have trims := trims_trim input.toList
      exact ⟨_, trims, (ofText_eq_ok_iff trims).mp read⟩
    · rintro ⟨text, trims, states⟩
      exact (ofText_eq_ok_iff trims).mpr states
  · intro input noDuration
    have trims := trims_trim input.toList
    obtain ⟨message, faults, refused⟩ :=
      exists_fault trims fun duration states => noDuration ⟨_, duration, trims, states⟩
    exact ⟨_, message, trims, faults, refused⟩
  · intro value name unit positive fits named
    apply (ofText_eq_ok_iff _).mpr (states_decimal positive fits named)
    rw [String.toList_ofList]
    exact trims_decimal named

/-- The greatest number that fits, in one text with a sign, a zero and blanks around it. -/
theorem ofText_exact_at_limit :
    ofText "\u3000+018446744073709551615ms\n" = .ok ⟨18446744073709551615⟩ ∧
      ofText "18446744073709551615s" = .ok ⟨18446744073709551615000⟩ := by
  constructor
  · have digits : Digits "018446744073709551615".toList 18446744073709551615 :=
      ⟨by decide, List.all_eq_true.mp rfl, rfl⟩
    have amount := Amount.intro (.plus digits) (by decide) .milliseconds
    have trims : Trims "\u3000+018446744073709551615ms\n".toList
        "+018446744073709551615ms".toList := trims_iff.mpr (by decide +kernel)
    exact (ofText_exact.1 _ _).mpr ⟨_, trims, .intro amount (by decide)⟩
  · exact ofText_exact.2.2 18446744073709551615 ['s'] 1000 (by decide) (by decide) .seconds

/-- Names do not add up. -/
example : ofText " 7sms" = .error ⟨.usage, "invalid duration value: 7sms"⟩ := by
  rfl

end FrameLink.Command.Duration

import FrameLink.Json.Printer
import FrameLink.Json.Token
import FrameLink.Proofs.Encoding.Decimal
import Mathlib.Data.List.TakeWhile

/-!
# Tokens come back from JSON text

A string that was written is scanned as one token, whose pieces stand for the characters that were
written (`scan_string`). So is a number, where nothing behind it could go on with it
(`scan_decimal`). Blanks between tokens do not count, so a text that holds given spellings with gaps
around them is scanned spelling by spelling (`scan_of_spaced`).
-/

namespace FrameLink.Json

open FrameLink.Text (decimal hexWord isDigit limit64)

/-! ## Strings -/

theorem text?_unit {code : Nat} (high : isHighHalf code = false) (low : isLowHalf code = false)
    (rest : List Piece) :
    text? (.unit code :: rest) = (text? rest).map (Char.ofNat code :: ·) := by
  cases rest with
  | nil => simp only [text?, high, low, Bool.or_self, Bool.false_eq_true, if_false]
  | cons piece rest =>
      cases piece with
      | char => simp only [text?, high, low, Bool.or_self, Bool.false_eq_true, if_false]
      | unit => simp only [text?, high, low, Bool.false_eq_true, if_false]

/-- A code unit is read back from its four digits. -/
theorem codeUnit?_hexWord {code : Nat} (small : code < 0x10000) :
    ∃ a b c d, hexWord 4 code = [a, b, c, d] ∧ codeUnit? a b c d = some code := by
  refine ⟨_, _, _, _, rfl, ?_⟩
  simp only [codeUnit?, Text.hexValue_digitChar (Nat.mod_lt _ (by decide : 0 < 16))]
  congr 1
  omega

/-- What a character is written as is read as one piece that stands for the character. -/
theorem exists_piece (char : Char) : ∃ piece,
    (∀ rest, text? (piece :: rest) = (text? rest).map (char :: ·)) ∧
      ∀ rest, takeString? (escapeChar char ++ rest) =
        (takeString? rest).map fun (pieces, rest) => (piece :: pieces, rest) := by
  unfold escapeChar
  split
  iterate 7 · exact ⟨.char _, fun _ => rfl, fun _ => rfl⟩
  next quote backslash _ _ _ _ _ =>
    split
    next control =>
      obtain ⟨a, b, c, d, written, read⟩ := codeUnit?_hexWord (Nat.lt_trans control (by decide))
      refine ⟨.unit char.toNat, ?_, ?_⟩
      · -- Controls lie far below the halves of pairs.
        have high : isHighHalf char.toNat = false := by
          simp only [isHighHalf, Bool.and_eq_false_iff, decide_eq_false_iff_not]
          omega
        have low : isLowHalf char.toNat = false := by
          simp only [isLowHalf, Bool.and_eq_false_iff, decide_eq_false_iff_not]
          omega
        intro rest
        rw [text?_unit high low, Char.ofNat_toNat]
      · intro rest
        rw [written]
        simp only [List.cons_append, List.nil_append, takeString?, read]
    next plain =>
      refine ⟨.char char, fun _ => rfl, ?_⟩
      intro rest
      rw [List.singleton_append, takeString?, if_neg (not_or.mpr ⟨backslash, plain⟩)]
      · exact quote
      · exact fun _ _ _ _ _ same _ => backslash same
      · exact fun _ _ same _ => backslash same

/-- The pieces of a string that was written stand for its text. -/
theorem exists_pieces (text : List Char) : ∃ pieces, text? pieces = some text ∧
    ∀ rest, takeString? (text.flatMap escapeChar ++ '"' :: rest) = some (pieces, rest) := by
  induction text with
  | nil => exact ⟨[], rfl, fun _ => rfl⟩
  | cons char text ih =>
      obtain ⟨piece, stands, first⟩ := exists_piece char
      obtain ⟨pieces, stand, others⟩ := ih
      refine ⟨piece :: pieces, ?_, ?_⟩
      · rw [stands, stand]
        rfl
      · intro rest
        rw [List.flatMap_cons, List.append_assoc, first, others]
        rfl

/-! ## Numbers -/

/-- Nothing at the front of a text goes on with a number. -/
def EndsNumber (text : List Char) : Prop :=
  ∀ char ∈ text.head?, isDigit char = false ∧ char ≠ '.' ∧ char ≠ 'e' ∧ char ≠ 'E'

section

variable {rest : List Char}

theorem takeDigits?_decimal (value : Nat) (ends : EndsNumber rest) :
    takeDigits? (decimal value ++ rest) = some (decimal value, rest) := by
  have digits : ∀ char ∈ decimal value, isDigit char = true := fun _ =>
    Text.isDigit_of_mem_decimal value
  have noDigit : rest.takeWhile isDigit = [] ∧ rest.dropWhile isDigit = rest := by
    cases rest with
    | nil => exact ⟨rfl, rfl⟩
    | cons char rest =>
        have other := (ends char rfl).1
        rw [List.takeWhile_cons, List.dropWhile_cons, other]
        exact ⟨rfl, rfl⟩
  have nonempty : (decimal value).isEmpty = false := by
    rw [List.isEmpty_eq_false_iff]
    exact Text.decimal_ne_nil value
  rw [takeDigits?, List.takeWhile_append_of_pos digits, List.dropWhile_append_of_pos digits,
    noDigit.1, noDigit.2, List.append_nil]
  exact if_neg (nonempty ▸ Bool.false_ne_true)

theorem takeWhole?_decimal (value : Nat) (ends : EndsNumber rest) :
    takeWhole? (decimal value ++ rest) = some (decimal value, rest) := by
  rw [takeWhole?, takeDigits?_decimal value ends]
  split
  next long =>
    simp only [Option.some.injEq, Prod.mk.injEq] at long
    exact absurd long.1 (Text.decimal_ne_zero_cons value _ _)
  next => rfl

theorem takeFraction?_of_ends (ends : EndsNumber rest) :
    takeFraction? rest = some (none, rest) := by
  unfold takeFraction?
  split
  next => exact absurd rfl (ends '.' rfl).2.1
  next => rfl

theorem takeExponent?_of_ends (ends : EndsNumber rest) :
    takeExponent? rest = some (none, rest) := by
  unfold takeExponent?
  split
  next => exact absurd rfl (ends 'e' rfl).2.2.1
  next => exact absurd rfl (ends 'E' rfl).2.2.2
  next => rfl

/-- The numeral of a number that was written. -/
def numeralOf (value : Nat) : Numeral where
  negative := false
  whole := decimal value
  fraction := none
  exponent := none

theorem takeNumeral?_decimal (value : Nat) (ends : EndsNumber rest) :
    takeNumeral? false (decimal value ++ rest) = some (numeralOf value, rest) := by
  simp only [takeNumeral?, takeWhole?_decimal value ends, takeFraction?_of_ends ends,
    takeExponent?_of_ends ends]
  rfl

theorem value?_numeralOf {value : Nat} (small : value < limit64) :
    (numeralOf value).value? = some (.natural value) := by
  have whole : Text.ofDigits? limit64 (decimal value) = some value := by
    rw [Text.ofDigits?_eq_ite, Text.ofDigits_decimal, if_pos small]
  simp only [Numeral.value?, Numeral.integer?, numeralOf, whole, Bool.not_false, if_true,
    Option.some_or]

end

/-! ## Scanning -/

/-- Blanks that may stand between tokens. -/
def Gap (text : List Char) : Prop :=
  ∀ char ∈ text, isSpace char = true

instance (text : List Char) : Decidable (Gap text) :=
  List.decidableBAll (fun char => isSpace char = true) text

theorem not_mark_of_space {char : Char} (space : isSpace char = true) :
    isDigit char = false ∧ char ≠ '.' ∧ char ≠ 'e' ∧ char ≠ 'E' := by
  simp only [isSpace, Bool.or_eq_true, decide_eq_true_eq] at space
  rcases space with ((rfl | rfl) | rfl) | rfl
  iterate 4 · decide

theorem solid_of_digit {char : Char} (digit : isDigit char = true) : isSpace char = false := by
  cases space : isSpace char with
  | false => rfl
  | true =>
      rw [(not_mark_of_space space).1] at digit
      cases digit

theorem scan_gap {gap : List Char} (blank : Gap gap) (text : List Char) :
    scan (gap ++ text) = scan text := by
  induction gap with
  | nil => rfl
  | cons char gap ih =>
      obtain ⟨space, behind⟩ := List.forall_mem_cons.mp blank
      rw [List.cons_append, scan, if_pos space, ih behind]

theorem scan_token {first : Char} {rest left : List Char} {token : Token}
    (solid : isSpace first = false) (taken : takeToken first rest = (token, left))
    (sound : token ≠ .malformed) : scan (first :: rest) = token :: scan left := by
  rw [scan, if_neg (solid ▸ Bool.false_ne_true)]
  split
  next malformed =>
    rw [taken, Prod.mk.injEq] at malformed
    exact absurd malformed.1 sound
  next same =>
    rw [taken, Prod.mk.injEq] at same
    rw [same.1, same.2]

theorem scan_string (text : String) : ∃ pieces, text? pieces = some text.toList ∧
    ∀ rest, scan (stringText text ++ rest) = .string pieces :: scan rest := by
  obtain ⟨pieces, stand, taken⟩ := exists_pieces text.toList
  refine ⟨pieces, stand, ?_⟩
  intro rest
  rw [stringText, List.cons_append, List.cons_append, List.append_assoc, List.singleton_append]
  apply scan_token (by decide)
  · rw [takeToken, taken]
    rfl
  · exact Token.noConfusion

theorem scan_decimal (value : Nat) {rest : List Char} (ends : EndsNumber rest) :
    scan (decimal value ++ rest) = .number (numeralOf value) :: scan rest := by
  cases written : decimal value with
  | nil => exact absurd written (Text.decimal_ne_nil value)
  | cons first others =>
      have digit : isDigit first = true := by
        apply Text.isDigit_of_mem_decimal value
        rw [written]
        exact List.mem_cons_self
      have taken := takeNumeral?_decimal value ends
      rw [written, List.cons_append] at taken
      rw [List.cons_append]
      apply scan_token
      · exact solid_of_digit digit
      · unfold takeToken
        split
        iterate 11 · exact absurd digit (by decide)
        · rw [if_pos digit, taken]
          rfl
      · exact Token.noConfusion

/-! ## Spellings with gaps around them -/

/-- A text that holds spellings in order, with gaps around them. -/
inductive Spaced : List (List Char) → List Char → Prop
  | nil {gap : List Char} (blank : Gap gap) : Spaced [] gap
  | cons {gap spelling text : List Char} {rest : List (List Char)} (blank : Gap gap)
      (behind : Spaced rest text) : Spaced (spelling :: rest) (gap ++ (spelling ++ text))

section

variable {spelling text : List Char} {rest : List (List Char)}

theorem Spaced.gap {gap : List Char} (blank : Gap gap) (spaced : Spaced rest text) :
    Spaced rest (gap ++ text) := by
  cases spaced with
  | nil blank' => exact .nil (List.forall_mem_append.mpr ⟨blank, blank'⟩)
  | cons blank' behind =>
      rw [← List.append_assoc]
      exact .cons (List.forall_mem_append.mpr ⟨blank, blank'⟩) behind

theorem Spaced.append {front : List (List Char)} {before : List Char} (first : Spaced front before)
    (second : Spaced rest text) : Spaced (front ++ rest) (before ++ text) := by
  induction first with
  | nil blank => exact second.gap blank
  | cons blank _ ih =>
      rw [List.append_assoc, List.append_assoc]
      exact .cons blank ih

/-- The first spelling is scanned, and what is behind it holds the others. -/
theorem scan_of_spaced {token : Token} (spaced : Spaced (spelling :: rest) text)
    (read : ∀ behind, Spaced rest behind → scan (spelling ++ behind) = token :: scan behind) :
    ∃ behind, Spaced rest behind ∧ scan text = token :: scan behind := by
  cases spaced with
  | cons blank behind =>
      refine ⟨_, behind, ?_⟩
      rw [scan_gap blank, read _ behind]

theorem scan_of_spaced_nil (spaced : Spaced [] text) : scan text = [] := by
  cases spaced with
  | nil blank =>
      rw [← List.append_nil text, scan_gap blank, scan]

theorem endsNumber_of_spaced {mark : Char}
    (other : isDigit mark = false ∧ mark ≠ '.' ∧ mark ≠ 'e' ∧ mark ≠ 'E')
    (spaced : Spaced ([mark] :: rest) text) : EndsNumber text := by
  cases spaced with
  | @cons gap _ _ _ blank _ =>
      intro char first
      cases gap with
      | nil => exact Option.some.inj first ▸ other
      | cons space gap =>
          rw [← Option.some.inj first]
          exact not_mark_of_space (blank space List.mem_cons_self)

end

/-! ## Objects -/

/-- The spellings of a member. -/
def memberSpellings (member : Member) : List (List Char) :=
  [stringText member.name, [':'], member.value]

/-- The spellings of members, with commas between them and the brace that ends their object. -/
def membersSpellings (members : List Member) : List (List Char) :=
  List.intercalate [[',']] (members.map memberSpellings) ++ [['\x7d']]

/-- The spellings of an object. -/
def objectSpellings (members : List Member) : List (List Char) :=
  ['\x7b'] :: membersSpellings members

theorem membersSpellings_singleton (member : Member) :
    membersSpellings [member] = memberSpellings member ++ [['\x7d']] := by
  rw [membersSpellings, List.map_singleton, List.intercalate_singleton]

theorem membersSpellings_cons_cons (member next : Member) (members : List Member) :
    membersSpellings (member :: next :: members) =
      memberSpellings member ++ [','] :: membersSpellings (next :: members) := by
  rw [membersSpellings, List.map_cons, List.map_cons, List.intercalate_cons_cons, ← List.map_cons]
  simp only [List.append_assoc, List.singleton_append]
  rfl

/-- Members that are written in order, with commas between them. -/
theorem spaced_members {write : Member → List Char} {close : List Char}
    (spaced : ∀ member, Spaced (memberSpellings member) (write member))
    (last : Spaced [['\x7d']] close) (members : List Member) :
    Spaced (membersSpellings members) (List.intercalate [','] (members.map write) ++ close) := by
  induction members with
  | nil => exact last
  | cons member members ih =>
      cases members with
      | nil =>
          rw [membersSpellings_singleton, List.map_singleton, List.intercalate_singleton]
          exact (spaced member).append last
      | cons next members =>
          rw [membersSpellings_cons_cons, List.map_cons, List.map_cons, List.intercalate_cons_cons,
            List.append_assoc, List.append_assoc, ← List.map_cons]
          exact (spaced member).append (.cons (List.forall_mem_nil _) ih)

/-- An object with one member a line holds the spellings of its members in order. -/
theorem spaced_prettyObject (members : List Member) :
    Spaced (objectSpellings members) (prettyObject members) := by
  have empty : Gap [] := List.forall_mem_nil _
  have last : Spaced [['\x7d']] (['\n'] ++ (['\x7d'] ++ [])) := .cons (by decide) (.nil empty)
  have line : ∀ member : Member, Spaced (memberSpellings member)
      (['\n', ' ', ' '] ++ (stringText member.name ++ ([] ++ ([':'] ++ ([' '] ++
        (member.value ++ [])))))) := fun member =>
    .cons (by decide) (.cons empty (.cons (by decide) (.nil empty)))
  have whole : Spaced (objectSpellings members) _ := .cons empty (spaced_members line last members)
  simp only [List.append_nil] at whole
  exact whole

end FrameLink.Json

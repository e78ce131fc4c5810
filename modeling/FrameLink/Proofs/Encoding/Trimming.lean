import FrameLink.Text.Blank
import Mathlib.Data.List.DropRight

/-!
# Trimming

Blanks at the ends of a text do not count, and what stands between the first and the last solid
character is kept, which says all about trimming (`trims_iff`). A solid character in the middle lets
both ends be trimmed apart.
-/

namespace FrameLink.Text

theorem trimEnd_eq_rdropWhile (inClass : Char → Bool) (text : List Char) :
    trimEnd inClass text = text.rdropWhile inClass :=
  rfl

/-- Nothing is trimmed off a text that is solid at both ends. -/
theorem trim_of_ends {text : List Char} (first : ∀ char ∈ text.head?, isBlank char = false)
    (last : ∀ char ∈ text.getLast?, isBlank char = false) : trim text = text := by
  have front : text.dropWhile isBlank = text := by
    apply List.dropWhile_eq_self_iff.mpr
    intro nonempty
    rw [first _ (List.head?_eq_getElem? ▸ List.getElem?_eq_getElem nonempty)]
    exact Bool.false_ne_true
  rw [trim, front, trimEnd_eq_rdropWhile, List.rdropWhile_eq_self_iff]
  intro nonempty
  rw [last _ (List.getLast?_eq_some_getLast nonempty)]
  exact Bool.false_ne_true

theorem trim_of_forall {text : List Char} (solid : ∀ char ∈ text, isBlank char = false) :
    trim text = text :=
  trim_of_ends (fun char first => solid char (List.mem_of_mem_head? first))
    fun char last => solid char (List.mem_of_mem_getLast? last)

/-! ## Blank texts -/

/-- A text of blanks alone. -/
def Blank (text : List Char) : Prop :=
  ∀ char ∈ text, isBlank char = true

instance (text : List Char) : Decidable (Blank text) :=
  List.decidableBAll (fun char => isBlank char = true) text

theorem trim_eq_nil_iff {text : List Char} : trim text = [] ↔ Blank text := by
  rw [trim, trimEnd_eq_rdropWhile, List.rdropWhile_eq_nil_iff]
  constructor
  · intro behind char inside
    have whole : text.takeWhile isBlank ++ text.dropWhile isBlank = text :=
      List.takeWhile_append_dropWhile
    rw [← whole] at inside
    rcases List.mem_append.mp inside with front | back
    · exact List.mem_takeWhile_imp front
    · exact behind char back
  · intro blank char inside
    exact blank char ((List.dropWhile_sublist isBlank).mem inside)

theorem trim_blank_append {front : List Char} (blank : Blank front) (text : List Char) :
    trim (front ++ text) = trim text := by
  rw [trim, List.dropWhile_append_of_pos blank, trim]

theorem trimEnd_append_blank (text : List Char) {back : List Char} (blank : Blank back) :
    trimEnd isBlank (text ++ back) = trimEnd isBlank text := by
  have reversed : ∀ char ∈ back.reverse, isBlank char = true := fun char inside =>
    blank char (List.mem_reverse.mp inside)
  rw [trimEnd, List.reverse_append, List.dropWhile_append_of_pos reversed, trimEnd]

theorem trim_append_blank (text : List Char) {back : List Char} (blank : Blank back) :
    trim (text ++ back) = trim text := by
  rw [trim, trim, List.dropWhile_append]
  split
  next all => rw [List.isEmpty_iff.mp all, List.dropWhile_eq_nil_iff.mpr blank]
  next => exact trimEnd_append_blank _ blank

theorem trim_around {front back : List Char} (before : Blank front) (text : List Char)
    (behind : Blank back) : trim (front ++ text ++ back) = trim text := by
  rw [trim_append_blank _ behind, trim_blank_append before]

/-! ## What trimming leaves -/

/-- A text without the blanks around it. -/
structure Trims (text core : List Char) : Prop where
  around : ∃ front back, Blank front ∧ Blank back ∧ text = front ++ core ++ back
  first : ∀ char ∈ core.head?, isBlank char = false
  last : ∀ char ∈ core.getLast?, isBlank char = false

theorem trims_trim (text : List Char) : Trims text (trim text) := by
  let behind := text.dropWhile isBlank
  rw [trim, trimEnd_eq_rdropWhile]
  constructor
  case around =>
    refine ⟨text.takeWhile isBlank, behind.rtakeWhile isBlank, ?_, ?_, ?_⟩
    · exact fun _ => List.mem_takeWhile_imp
    · exact fun _ => List.mem_rtakeWhile_imp
    · rw [List.append_assoc, List.rdropWhile_append_rtakeWhile, List.takeWhile_append_dropWhile]
  case first =>
    intro char first
    obtain ⟨rest, whole⟩ := List.rdropWhile_prefix isBlank behind
    have front : behind.head? = some char := by
      rw [← whole, List.head?_append, Option.mem_def.mp first, Option.some_or]
    have stops := List.head?_dropWhile_not isBlank text
    rw [show (text.dropWhile isBlank).head? = some char from front] at stops
    exact stops
  case last =>
    intro char last
    have nonempty : behind.rdropWhile isBlank ≠ [] := by
      intro empty
      rw [Option.mem_def, empty] at last
      cases last
    have stops := List.rdropWhile_last_not isBlank behind nonempty
    rw [Option.mem_def, List.getLast?_eq_some_getLast nonempty, Option.some.injEq] at last
    rw [last] at stops
    exact Bool.eq_false_iff.mpr stops

/-- There is one way to trim a text. -/
theorem trims_iff {text core : List Char} : Trims text core ↔ trim text = core := by
  constructor
  · intro trims
    obtain ⟨front, back, before, behind, rfl⟩ := trims.around
    rw [trim_around before core behind, trim_of_ends trims.first trims.last]
  · rintro rfl
    exact trims_trim text

/-! ## Trimming in parts -/

theorem trim_dropWhile (text : List Char) : trim (text.dropWhile isBlank) = trim text := by
  rw [trim, List.dropWhile_idempotent, trim]

theorem trim_trimEnd (text : List Char) : trim (trimEnd isBlank text) = trim text := by
  have dropped : Blank (text.rtakeWhile isBlank) := fun _ => List.mem_rtakeWhile_imp
  have whole : text.rdropWhile isBlank ++ text.rtakeWhile isBlank = text :=
    List.rdropWhile_append_rtakeWhile
  rw [trimEnd_eq_rdropWhile, ← trim_append_blank _ dropped, whole]

theorem mem_of_mem_trim {text : List Char} {char : Char} (inside : char ∈ trim text) :
    char ∈ text := by
  rw [trim, trimEnd, List.mem_reverse] at inside
  have kept := (List.dropWhile_sublist isBlank).mem inside
  exact (List.dropWhile_sublist isBlank).mem (List.mem_reverse.mp kept)

/-- Dropping from the front stops at a character outside the class. -/
theorem dropWhile_append_cons {inClass : Char → Bool} {char : Char} (outside : inClass char = false)
    (front back : List Char) :
    (front ++ char :: back).dropWhile inClass = front.dropWhile inClass ++ char :: back := by
  have stops : (char :: back).dropWhile inClass = char :: back := by
    rw [List.dropWhile_cons, outside]
    rfl
  rw [List.dropWhile_append]
  split
  next all => rw [stops, List.isEmpty_iff.mp all, List.nil_append]
  next => rfl

theorem trim_append_cons {char : Char} (solid : isBlank char = false) (front back : List Char) :
    trim (front ++ char :: back) = front.dropWhile isBlank ++ char :: trimEnd isBlank back := by
  rw [trim, dropWhile_append_cons solid, trimEnd, List.reverse_append, List.reverse_cons,
    List.append_assoc, List.singleton_append, dropWhile_append_cons solid, List.reverse_append,
    List.reverse_cons, List.reverse_reverse, List.append_assoc, List.singleton_append, trimEnd]

end FrameLink.Text

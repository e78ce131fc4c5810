import Mathlib.Data.List.Basic

/-!
# Histories that grow at their end

A fact about every entry of a history, next to what stands in front of it, is proved entry by entry
as the history grows. The one thing to know is where the entry can stand (`eq_concat_iff`).
-/

namespace FrameLink.History

variable {α : Type}

/-- An entry of a history that has grown is the new one, or stood there before. -/
theorem eq_concat_iff {history front back : List α} {last entry : α} :
    history ++ [last] = front ++ entry :: back ↔
      (front = history ∧ entry = last ∧ back = []) ∨
        ∃ middle, back = middle ++ [last] ∧ history = front ++ entry :: middle := by
  constructor
  · intro split
    rcases List.eq_nil_or_concat back with rfl | ⟨middle, final, rfl⟩
    · obtain ⟨same, single⟩ := List.append_inj' split rfl
      exact .inl ⟨same.symm, (List.singleton_inj.1 single).symm, rfl⟩
    · rw [List.concat_eq_append, ← List.cons_append, ← List.append_assoc] at split
      obtain ⟨same, single⟩ := List.append_inj' split rfl
      rw [List.singleton_inj.1 single]
      exact .inr ⟨middle, List.concat_eq_append, same⟩
  · rintro (⟨rfl, rfl, rfl⟩ | ⟨middle, rfl, rfl⟩)
    · rfl
    · rw [List.append_assoc, List.cons_append]

/-- What holds of every entry of a history, and of the new one behind it, holds of every entry once
the history has grown. -/
theorem forall_concat {history : List α} {last : α} {property : List α → α → Prop}
    (earlier : ∀ front entry back, history = front ++ entry :: back → property front entry)
    (new : property history last) :
    ∀ front entry back, history ++ [last] = front ++ entry :: back → property front entry := by
  intro front entry back split
  rcases eq_concat_iff.1 split with ⟨rfl, rfl, _⟩ | ⟨middle, _, stood⟩
  · exact new
  · exact earlier front entry middle stood

end FrameLink.History

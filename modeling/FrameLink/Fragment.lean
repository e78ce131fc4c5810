import FrameLink.Bytes

/-!
# Cutting bytes into pieces

Pieces of one size, the last of which may be shorter. Nothing is lost, and no piece is empty.
-/

namespace FrameLink.Bytes

/-- Cuts bytes into pieces of a size; no bytes, or a size of zero, give no piece. -/
def pieces (size : Nat) (bytes : Bytes) : List Bytes :=
  if size = 0 ∨ bytes = [] then []
  else bytes.take size :: pieces size (bytes.drop size)
  termination_by bytes.length
  decreasing_by
    have some_byte : 0 < bytes.length := List.length_pos_iff.2 (by simp_all)
    simp only [List.length_drop]
    omega

@[simp] theorem pieces_nil (size : Nat) : pieces size [] = [] := by
  simp [pieces]

/-- Bytes that fit one piece are one. -/
theorem pieces_of_length_le {size : Nat} {bytes : Bytes} (someByte : bytes ≠ [])
    (fits : bytes.length ≤ size) : pieces size bytes = [bytes] := by
  have positive : size ≠ 0 :=
    Nat.ne_of_gt (Nat.lt_of_lt_of_le (List.length_pos_iff.2 someByte) fits)
  rw [pieces, if_neg (not_or.2 ⟨positive, someByte⟩), List.take_of_length_le fits,
    List.drop_of_length_le fits, pieces_nil]

/-- The pieces are the bytes. -/
theorem flatten_pieces {size : Nat} (positive : 0 < size) (bytes : Bytes) :
    (pieces size bytes).flatten = bytes := by
  fun_induction pieces size bytes with
  | case1 bytes stops =>
      have empty : bytes = [] := stops.resolve_left (Nat.ne_of_gt positive)
      simp [empty]
  | case2 bytes goes ih => simp [ih]

/-- No piece is empty, and none is longer than the size. -/
theorem length_of_mem_pieces {size : Nat} {bytes piece : Bytes}
    (member : piece ∈ pieces size bytes) : 0 < piece.length ∧ piece.length ≤ size := by
  fun_induction pieces size bytes with
  | case1 => simp at member
  | case2 bytes goes ih =>
      rcases List.mem_cons.1 member with first | later
      · simp only [not_or] at goes
        have some_byte := List.length_pos_iff.2 goes.2
        rw [first, List.length_take]
        omega
      · exact ih later

/-- There are as many pieces as it takes to hold the bytes. -/
theorem length_pieces {size : Nat} (positive : 0 < size) (bytes : Bytes) :
    (pieces size bytes).length = (bytes.length + size - 1) / size := by
  fun_induction pieces size bytes with
  | case1 bytes stops =>
      obtain rfl : bytes = [] := stops.resolve_left (Nat.ne_of_gt positive)
      rw [List.length_nil, List.length_nil, Nat.zero_add, Nat.div_eq_of_lt (by omega)]
  | case2 bytes goes ih =>
      have someByte := List.length_pos_iff.2 (not_or.1 goes).2
      have first : bytes.length + size - 1 = bytes.length - 1 + size := by omega
      have others : (bytes.length - size + size - 1) / size = (bytes.length - 1) / size := by
        by_cases last : bytes.length ≤ size
        · rw [Nat.div_eq_of_lt (by omega), Nat.div_eq_of_lt (by omega)]
        · rw [Nat.sub_add_cancel (Nat.le_of_not_le last)]
      rw [List.length_cons, ih, List.length_drop, others, first, Nat.add_div_right _ positive]

/-- A piece with another one behind it is full. -/
theorem length_of_getElem?_pieces {size index : Nat} {bytes piece : Bytes}
    (there : (pieces size bytes)[index]? = some piece)
    (inner : index + 1 < (pieces size bytes).length) : piece.length = size := by
  fun_induction pieces size bytes generalizing index with
  | case1 => cases there
  | case2 bytes goes ih =>
      cases index with
      | zero =>
          cases there
          rw [List.length_take, Nat.min_eq_left]
          apply Nat.le_of_not_lt
          intro short
          rw [List.drop_eq_nil_of_le (Nat.le_of_lt short), pieces_nil] at inner
          exact Nat.lt_irrefl _ inner
      | succ index => exact ih there (Nat.lt_of_succ_lt_succ inner)

theorem isEmpty_pieces {size : Nat} (positive : 0 < size) (bytes : Bytes) :
    (pieces size bytes).isEmpty = bytes.isEmpty := by
  cases bytes with
  | nil =>
      rw [pieces_nil]
      rfl
  | cons byte rest =>
      rw [pieces, if_neg (by simp [Nat.ne_of_gt positive])]
      rfl

end FrameLink.Bytes

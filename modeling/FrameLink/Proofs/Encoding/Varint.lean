import FrameLink.Proofs.Encoding.Groups

/-!
# Lengths and fields come back from their bytes

Each end that reading can come to is told by the bytes alone: by the number that they hold, and by
whether as many bytes stand behind it. So a length that was written is found again, and a field that
was written is split off, whatever stands behind it.
-/

namespace FrameLink.Varint

/-! ## Reading -/

section Reads

variable {bytes : Bytes}

/-- A length is read where its bytes end, it fits a machine word and what it announces is there. -/
theorem decode_ok_iff {value width : Nat} :
    decode bytes = .ok ⟨value, width⟩ ↔
      width? bytes = some width ∧ value = ofGroups (bytes.take width) ∧ value < limit ∧
        width + value ≤ bytes.length := by
  rcases decode_cases bytes with ⟨great, count, _, read⟩ | ⟨endless, _, read⟩ |
    ⟨own, ends, small, ⟨short, read⟩ | ⟨there, read⟩⟩
  · rw [read]
    refine iff_of_false nofun ?_
    rintro ⟨ends, rfl, small, _⟩
    rw [ownBytes_of_width? ends] at great
    exact Nat.not_lt.2 great small
  · rw [read, endless]
    exact iff_of_false nofun fun ⟨said, _⟩ => nomatch said
  · rw [read, ends]
    refine iff_of_false nofun ?_
    rintro ⟨same, rfl, _, there⟩
    cases same
    omega
  · rw [read, ends]
    constructor
    · intro same
      cases same
      exact ⟨rfl, rfl, small, there⟩
    · rintro ⟨same, rfl, _, _⟩
      cases same
      rfl

/-- Bytes are cut short where none of them is the last one and the number fits so far. -/
theorem decode_truncated_iff :
    decode bytes = .error .truncated ↔ width? bytes = none ∧ ofGroups bytes < limit := by
  rcases decode_cases bytes with ⟨great, count, _, read⟩ | ⟨endless, small, read⟩ |
    ⟨own, ends, small, ⟨short, read⟩ | ⟨there, read⟩⟩
  · rw [read]
    refine iff_of_false nofun ?_
    rintro ⟨endless, small⟩
    rw [ownBytes_of_endless endless] at great
    exact Nat.not_lt.2 great small
  · exact iff_of_true read ⟨endless, small⟩
  · rw [read, ends]
    exact iff_of_false nofun fun ⟨said, _⟩ => nomatch said
  · rw [read, ends]
    exact iff_of_false nofun fun ⟨said, _⟩ => nomatch said

/-- A length is refused where it announces more than is there, or does not fit a machine word. -/
theorem decode_oversized_iff {length remaining : Nat} :
    decode bytes = .error (.oversized length remaining) ↔
      (∃ width, width? bytes = some width ∧ length = ofGroups (bytes.take width) ∧
        length < limit ∧ remaining = bytes.length - width ∧ remaining < length) ∨
      (limit ≤ ofGroups (ownBytes bytes) ∧ length = limit - 1 ∧
        ∃ count, Overruns 0 (ownBytes bytes) count ∧ remaining = bytes.length - count) := by
  rcases decode_cases bytes with ⟨great, count, overruns, read⟩ | ⟨endless, small, read⟩ |
    ⟨own, ends, small, ⟨short, read⟩ | ⟨there, read⟩⟩
  · rw [read]
    constructor
    · intro same
      cases same
      exact .inr ⟨great, rfl, count, overruns, rfl⟩
    · rintro (⟨width, ends, rfl, small, _⟩ | ⟨_, rfl, other, again, rfl⟩)
      · rw [ownBytes_of_width? ends] at great
        exact absurd small (Nat.not_lt.2 great)
      · rw [overruns.unique again]
  · rw [read, endless, ownBytes_of_endless endless]
    refine iff_of_false nofun ?_
    rintro (⟨width, ends, _⟩ | ⟨great, _⟩)
    · cases ends
    · exact Nat.not_lt.2 great small
  · rw [read, ends, ownBytes_of_width? ends]
    constructor
    · intro same
      cases same
      exact .inl ⟨own, rfl, rfl, small, rfl, short⟩
    · rintro (⟨width, same, rfl, _, rfl, _⟩ | ⟨great, _⟩)
      · cases same
        rfl
      · exact absurd small (Nat.not_lt.2 great)
  · rw [read, ends, ownBytes_of_width? ends]
    refine iff_of_false nofun ?_
    rintro (⟨width, same, rfl, _, rfl, short⟩ | ⟨great, _⟩)
    · cases same
      omega
    · exact Nat.not_lt.2 great small

/-- The field behind a length that was read is there, and what is split off is that field. -/
theorem takeField_ok_iff {field rest : Bytes} :
    takeField bytes = .ok (field, rest) ↔
      ∃ width, decode bytes = .ok ⟨field.length, width⟩ ∧
        bytes = bytes.take width ++ field ++ rest := by
  rw [takeField]
  cases read : decode bytes with
  | error fault => exact iff_of_false nofun fun ⟨_, said, _⟩ => nomatch said
  | ok length =>
      obtain ⟨value, width⟩ := length
      obtain ⟨_, _, _, there⟩ := decode_ok_iff.1 read
      constructor
      · intro split
        cases split
        have whole : ((bytes.drop width).take value).length = value := by
          rw [List.length_take, List.length_drop]
          omega
        refine ⟨width, by rw [whole], ?_⟩
        rw [List.append_assoc, List.take_append_drop, List.take_append_drop]
      · rintro ⟨_, same, split⟩
        cases same
        have behind : bytes.drop width = field ++ rest := by
          have parts := List.take_append_drop width bytes
          rw [List.append_assoc] at split
          exact List.append_cancel_left (parts.trans split)
        simp only [behind, List.take_left, List.drop_left]

end Reads

/-! ## What was written -/

/-- Whatever stands behind the written form of a number, reading finds the number. -/
theorem decode_encode_append {value : Nat} (fits : value < limit) (rest : Bytes) :
    decode (encode value ++ rest) =
      if value ≤ rest.length then .ok ⟨value, encodedLength value⟩
      else .error (.oversized value rest.length) := by
  have ends : width? (encode value ++ rest) = some (encodedLength value) := by
    rw [(terminated_encode value).width?_append, length_encode]
  have own : (encode value ++ rest).take (encodedLength value) = encode value := by
    rw [← length_encode, List.take_left]
  have length : (encode value ++ rest).length = encodedLength value + rest.length := by
    rw [List.length_append, length_encode]
  split
  next there =>
    refine decode_ok_iff.2 ⟨ends, ?_, fits, ?_⟩
    · rw [own, ofGroups_encode]
    · rw [length]
      exact Nat.add_le_add_left there _
  next short =>
    refine decode_oversized_iff.2 (.inl ⟨_, ends, ?_, fits, ?_, Nat.lt_of_not_le short⟩)
    · rw [own, ofGroups_encode]
    · rw [length, Nat.add_sub_cancel_left]

/-- A field is split off what it was put in front of. -/
theorem takeField_encodeField {field : Bytes} (rest : Bytes) (fits : field.length < limit) :
    takeField (encodeField field ++ rest) = .ok (field, rest) := by
  have there : field.length ≤ (field ++ rest).length := by simp
  refine takeField_ok_iff.2 ⟨encodedLength field.length, ?_, ?_⟩
  · rw [encodeField, List.append_assoc, decode_encode_append fits, if_pos there]
  · rw [encodeField, List.append_assoc, ← length_encode, List.take_left, List.append_assoc]

/-- A field takes at least a byte for its length. -/
theorem encodeField_ne_nil (field : Bytes) : encodeField field ≠ [] := by
  simp [encodeField, encode]

/-- A field is no shorter than what it holds. -/
theorem length_lt_encodeField (field : Bytes) : field.length < (encodeField field).length := by
  simp only [encodeField, encode, List.length_append, List.length_singleton]
  omega

end FrameLink.Varint

import FrameLink.Proofs.Receiver.Completion
import FrameLink.Proofs.Receiver.Fragments

/-!
# The packets of a frame and where they lead

The packets that a sender makes of a frame (`Sender.fragments`), and what becomes of them in a
receiver that waits for a frame: where all of them arrive, the receiver answers with what the frame
comes to and has heard what the sender announced (`acceptOver_fragments`).
-/

namespace FrameLink

namespace Sender

/-- The pieces into which a frame is cut. -/
def pieces (sender : Sender) (frame : Frame) : List Bytes :=
  Bytes.pieces sender.room (sender.serialize frame)

/-- The packets of a frame that is not too long for its offsets. -/
def fragments (sender : Sender) (frame : Frame) : List Packet :=
  packetsFrom (sender.header frame) frame.timestamp 0 (sender.pieces frame)

theorem packets_of_short {sender : Sender} {frame : Frame}
    (short : (sender.serialize frame).length ≤ greatestFrame) :
    sender.packets frame = .ok (sender.fragments frame) := by
  rw [packets, if_neg (Nat.not_lt.2 short)]
  rfl

theorem packets_of_long {sender : Sender} {frame : Frame}
    (long : greatestFrame < (sender.serialize frame).length) :
    sender.packets frame =
      .error (.frameTooLarge (sender.serialize frame).length greatestFrame) := by
  rw [packets, if_pos long]

/-- A frame that is short enough for its offsets is encoded as its packets. -/
theorem encode_of_short {sender : Sender} {frame : Frame}
    (short : ((sender.adopt frame).serialize frame).length ≤ greatestFrame) :
    sender.encode frame =
      (.ok ((sender.adopt frame).fragments frame), (sender.adopt frame).settled) := by
  simp only [encode, packets_of_short short]

/-- A frame that is too long for its offsets is refused, but its format has been taken over. -/
theorem encode_of_long {sender : Sender} {frame : Frame}
    (long : greatestFrame < ((sender.adopt frame).serialize frame).length) :
    sender.encode frame =
      (.error (.frameTooLarge ((sender.adopt frame).serialize frame).length greatestFrame),
        sender.adopt frame) := by
  simp only [encode, packets_of_long long]

/-- What is encoded are the packets of a frame short enough for its offsets. -/
theorem fragments_of_encode {sender after : Sender} {frame : Frame} {packets : List Packet}
    (encoded : sender.encode frame = (.ok packets, after)) :
    packets = (sender.adopt frame).fragments frame ∧ after = (sender.adopt frame).settled ∧
      ((sender.adopt frame).serialize frame).length ≤ greatestFrame := by
  rcases Nat.lt_or_ge greatestFrame ((sender.adopt frame).serialize frame).length with long | short
  · rw [encode_of_long long] at encoded
    cases encoded
  · rw [encode_of_short short] at encoded
    cases encoded
    exact ⟨rfl, rfl, short⟩

@[simp] theorem flatten_pieces (sender : Sender) (frame : Frame) :
    (sender.pieces frame).flatten = sender.serialize frame :=
  Bytes.flatten_pieces sender.room_pos _

theorem ne_nil_of_mem_pieces {sender : Sender} {frame : Frame} :
    ∀ piece ∈ sender.pieces frame, piece ≠ [] := by
  intro piece membership
  exact List.length_pos_iff.1 (Bytes.length_of_mem_pieces membership).1

@[simp] theorem length_fragments (sender : Sender) (frame : Frame) :
    (sender.fragments frame).length = (sender.pieces frame).length := by
  rw [fragments, Receiver.length_packetsFrom]

/-- The packets of a frame carry its bytes. -/
theorem carried_fragments (sender : Sender) (frame : Frame) :
    Receiver.carried (sender.fragments frame) = sender.serialize frame := by
  rw [fragments, Receiver.carried_packetsFrom, flatten_pieces]

theorem pieces_ne_nil {sender : Sender} {frame : Frame} (someByte : sender.serialize frame ≠ []) :
    sender.pieces frame ≠ [] := by
  intro nothing
  rw [← flatten_pieces, nothing] at someByte
  exact someByte rfl

/-- Every piece brings some byte. -/
theorem flatten_take_ne_nil {sender : Sender} {frame : Frame} {count : Nat} (positive : 0 < count)
    (somePiece : sender.pieces frame ≠ []) :
    ((sender.pieces frame).take count).flatten ≠ [] := by
  obtain ⟨piece, rest, cut⟩ := List.exists_cons_of_ne_nil somePiece
  obtain ⟨fewer, rfl⟩ := Nat.exists_eq_succ_of_ne_zero (Nat.ne_of_gt positive)
  have member : piece ∈ sender.pieces frame := by
    rw [cut]
    exact List.mem_cons_self
  rw [cut, List.take_succ_cons, List.flatten_cons]
  exact List.append_ne_nil_of_left_ne_nil (ne_nil_of_mem_pieces piece member) _

/-- A frame without bytes has no packets. -/
theorem fragments_of_empty {sender : Sender} {frame : Frame}
    (empty : sender.serialize frame = []) : sender.fragments frame = [] := by
  rw [fragments, pieces, empty, Bytes.pieces_nil]
  rfl

/-- A frame without bytes has nothing due, no event and no payload. -/
theorem serialize_eq_nil {sender : Sender} {frame : Frame}
    (empty : sender.serialize frame = []) :
    sender.due = none ∧ frame.event = none ∧ frame.payload = [] := by
  obtain ⟨announcement, body⟩ := List.append_eq_nil_iff.1 empty
  refine ⟨?_, ?_⟩
  · cases due : sender.due with
    | none => rfl
    | some descriptor =>
        rw [due] at announcement
        exact absurd announcement (Varint.encodeField_ne_nil _)
  · cases carried : frame.event with
    | none =>
        simp only [Frame.body, carried] at body
        exact ⟨rfl, body⟩
    | some event =>
        simp only [Frame.body, carried] at body
        exact absurd body (Varint.encodeField_ne_nil _)

/-- An event or a payload has some byte. -/
theorem serialize_ne_nil {sender : Sender} {frame : Frame}
    (carries : frame.event ≠ none ∨ frame.payload ≠ []) : sender.serialize frame ≠ [] := by
  intro empty
  obtain ⟨_, noEvent, noPayload⟩ := serialize_eq_nil empty
  rcases carries with event | payload
  · exact event noEvent
  · exact payload noPayload

/-- The front of a frame is no longer than the frame. -/
theorem length_flatten_take_le (sender : Sender) (frame : Frame) (count : Nat) :
    ((sender.pieces frame).take count).flatten.length ≤ (sender.serialize frame).length := by
  rw [← flatten_pieces sender frame]
  conv => rhs; rw [← List.take_append_drop count (sender.pieces frame), List.flatten_append]
  rw [List.length_append]
  exact Nat.le_add_right _ _

end Sender

namespace Receiver

open FrameLink.Sender (greatestFrame)

/-- All packets of a frame together bring the frame and its announcement. -/
theorem acceptOver_fragments (lost : Nat → Bool) (receiver : Receiver) (sender : Sender)
    (frame : Frame) (position : Nat) (someByte : sender.serialize frame ≠ [])
    (kept : Kept lost position (sender.fragments frame).length)
    (fits : (sender.serialize frame).length ≤ receiver.config.maxFrameSize)
    (short : (sender.serialize frame).length ≤ greatestFrame) :
    ∃ active,
      (receiver.holding []).acceptOver lost position (sender.fragments frame) =
        (List.replicate ((sender.fragments frame).length - 1) (.ok none) ++
            [frame.verdict sender.current (sender.teach receiver.cache)
              (receiver.notices sender)],
          { receiver.holding [] with cache := sender.teach receiver.cache, active }) := by
  obtain ⟨active, completed⟩ := complete_frame (receiver.holding []) sender frame short
  refine ⟨active, ?_⟩
  have whole := acceptOver_whole lost receiver (sender.header frame) frame.timestamp position
    (Sender.pieces_ne_nil someByte) (by simpa using kept) Sender.ne_nil_of_mem_pieces
    (by simpa using fits) (by simpa using short)
  rw [Sender.flatten_pieces, completed] at whole
  rw [Sender.length_fragments]
  exact whole

end Receiver

end FrameLink

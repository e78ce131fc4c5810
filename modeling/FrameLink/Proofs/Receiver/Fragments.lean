import FrameLink.Proofs.Receiver.Cuts
import FrameLink.Sender.Basic

/-!
# What the packets of one frame do to a receiver

A line hands packets over in order, and a lost one leaves nothing behind but the gap
(`acceptOver`). The packets of a frame then end in one of three ways. All of them arrive at a
receiver that waits for a frame, and the frame is completed (`acceptOver_whole`); the front of them
arrives, and is held (`acceptOver_front`); or something is in the way, and nothing is left of the
frame (`acceptOver_broken`, `acceptOver_torn`).
-/

namespace FrameLink.Receiver

open FrameLink.Sender (packetsFrom greatestFrame)

/-! ## A line with losses -/

/-- Takes the packets of a line in order, the first of which stands at a position. A gap costs
whatever is at hand. -/
def acceptOver (lost : Nat → Bool) (receiver : Receiver) (position : Nat) :
    List Packet → List Answer × Receiver
  | [] => ([], receiver)
  | packet :: rest =>
      if lost position then receiver.discard.acceptOver lost (position + 1) rest
      else
        let first := receiver.accept packet
        let others := first.2.acceptOver lost (position + 1) rest
        (first.1 :: others.1, others.2)

/-- Answers without a delivery, and without a word about formats. -/
inductive Idle : Answer → Prop
  | nothing : Idle (.ok none)
  | astray (expected got : Nat) : Idle (.error (.fragmentMismatch expected got))
  | oversized (size most : Nat) : Idle (.error (.frameTooLarge size most))

/-- Nothing of a stretch of the line is lost. -/
def Kept (lost : Nat → Bool) (position count : Nat) : Prop :=
  ∀ index < count, lost (position + index) = false

instance decidableKept (lost : Nat → Bool) (position count : Nat) :
    Decidable (Kept lost position count) :=
  inferInstanceAs (Decidable (∀ index < count, lost (position + index) = false))

theorem kept_zero (lost : Nat → Bool) (position : Nat) : Kept lost position 0 :=
  fun index below => absurd below (Nat.not_lt_zero index)

theorem Kept.head {lost : Nat → Bool} {position count : Nat}
    (kept : Kept lost position (count + 1)) : lost position = false :=
  kept 0 (Nat.succ_pos count)

theorem Kept.tail {lost : Nat → Bool} {position count : Nat}
    (kept : Kept lost position (count + 1)) : Kept lost (position + 1) count := by
  intro index inside
  rw [Nat.add_assoc, Nat.add_comm 1 index]
  exact kept (index + 1) (Nat.succ_lt_succ inside)

theorem kept_succ_iff {lost : Nat → Bool} {position count : Nat} :
    Kept lost position (count + 1) ↔ lost position = false ∧ Kept lost (position + 1) count := by
  constructor
  · intro kept
    exact ⟨kept.head, kept.tail⟩
  · rintro ⟨first, others⟩ index inside
    cases index with
    | zero => exact first
    | succ index =>
        have later := others index (Nat.lt_of_succ_lt_succ inside)
        rwa [Nat.add_assoc, Nat.add_comm 1 index] at later

section Line

variable {lost : Nat → Bool} {receiver : Receiver} {position : Nat}

theorem acceptOver_lost {packet : Packet} {rest : List Packet} (gap : lost position = true) :
    receiver.acceptOver lost position (packet :: rest) =
      receiver.discard.acceptOver lost (position + 1) rest := by
  rw [acceptOver, if_pos gap]

theorem acceptOver_kept {packet : Packet} {rest : List Packet} {answer : Answer}
    {after : Receiver} (kept : lost position = false)
    (accepted : receiver.accept packet = (answer, after)) :
    receiver.acceptOver lost position (packet :: rest) =
      (answer :: (after.acceptOver lost (position + 1) rest).1,
        (after.acceptOver lost (position + 1) rest).2) := by
  rw [acceptOver, if_neg (by simp [kept]), accepted]

/-- A line goes on where its front ended. -/
theorem acceptOver_append (front back : List Packet) :
    receiver.acceptOver lost position (front ++ back) =
      ((receiver.acceptOver lost position front).1 ++
          ((receiver.acceptOver lost position front).2.acceptOver lost
            (position + front.length) back).1,
        ((receiver.acceptOver lost position front).2.acceptOver lost
          (position + front.length) back).2) := by
  induction front generalizing receiver position with
  | nil => simp [acceptOver]
  | cons packet front ih =>
      rw [List.cons_append, List.length_cons, ← Nat.add_assoc, Nat.add_right_comm position]
      cases gap : lost position with
      | true => rw [acceptOver_lost gap, acceptOver_lost gap, ih]
      | false =>
          rw [acceptOver_kept gap rfl, acceptOver_kept gap rfl, ih]
          rfl

/-- A line that loses nothing hands over every packet. -/
theorem acceptOver_of_kept {packets : List Packet} (kept : Kept lost position packets.length) :
    receiver.acceptOver lost position packets = receiver.acceptAll packets := by
  induction packets generalizing receiver position with
  | nil => rfl
  | cons packet rest ih =>
      rw [acceptOver_kept kept.head (Prod.eta _).symm, ih kept.tail]
      rfl

end Line

/-! ## Fragments -/

/-- The packet with one piece of a frame. -/
def fragment (header : PacketHeader) (timestamp : UInt32) (offset : Nat) (last : Bool)
    (piece : Bytes) : Packet where
  header := { header with offset := UInt32.ofNat offset }
  marker := last
  discont := false
  timestamp := timestamp
  payload := piece

theorem packetsFrom_cons (header : PacketHeader) (timestamp : UInt32) (offset : Nat)
    (piece : Bytes) (rest : List Bytes) :
    packetsFrom header timestamp offset (piece :: rest) =
      fragment header timestamp offset rest.isEmpty piece ::
        packetsFrom header timestamp (offset + piece.length) rest := rfl

@[simp] theorem length_packetsFrom (header : PacketHeader) (timestamp : UInt32) (offset : Nat)
    (pieces : List Bytes) :
    (packetsFrom header timestamp offset pieces).length = pieces.length := by
  induction pieces generalizing offset with
  | nil => rfl
  | cons piece rest ih => rw [packetsFrom_cons, List.length_cons, List.length_cons, ih]

/-- The fragments of a frame stand where the pieces in front of them end. -/
theorem getElem?_packetsFrom (header : PacketHeader) (timestamp : UInt32) (offset index : Nat)
    (pieces : List Bytes) :
    (packetsFrom header timestamp offset pieces)[index]? =
      pieces[index]?.map (fragment header timestamp
        (offset + (pieces.take index).flatten.length) (index + 1 == pieces.length)) := by
  induction pieces generalizing offset index with
  | nil => rfl
  | cons piece rest ih =>
      rw [packetsFrom_cons]
      cases index with
      | zero =>
          cases rest with
          | nil => rfl
          | cons next rest => rfl
      | succ index =>
          rw [List.getElem?_cons_succ, List.getElem?_cons_succ, ih, List.take_succ_cons,
            List.flatten_cons, List.length_append, Nat.add_assoc, List.length_cons]
          congr 2
          exact Bool.eq_iff_iff.2 (by simp)

/-- The packets of a frame differ in nothing but their places. -/
theorem header_of_mem_packetsFrom {header : PacketHeader} {timestamp : UInt32} {offset : Nat}
    {pieces : List Bytes} {packet : Packet}
    (member : packet ∈ packetsFrom header timestamp offset pieces) :
    packet.header = { header with offset := packet.header.offset } := by
  induction pieces generalizing offset with
  | nil => cases member
  | cons piece rest ih =>
      rcases List.mem_cons.1 member with rfl | later
      · rfl
      · exact ih later

/-- The packets of a frame carry one piece each, in order. -/
theorem payloads_packetsFrom (header : PacketHeader) (timestamp : UInt32) (offset : Nat)
    (pieces : List Bytes) :
    (packetsFrom header timestamp offset pieces).map Packet.payload = pieces := by
  induction pieces generalizing offset with
  | nil => rfl
  | cons piece rest ih => rw [packetsFrom, List.map_cons, ih]

/-- The packets of a frame carry its pieces. -/
theorem carried_packetsFrom (header : PacketHeader) (timestamp : UInt32) (offset : Nat)
    (pieces : List Bytes) :
    carried (packetsFrom header timestamp offset pieces) = pieces.flatten := by
  rw [carried, payloads_packetsFrom]

/-- The offsets of a frame are told by the header as they are. -/
theorem toNat_offset {offset : Nat} (short : offset ≤ greatestFrame) :
    (UInt32.ofNat offset).toNat = offset := by
  rw [UInt32.toNat_ofNat', Nat.mod_eq_of_lt]
  simp only [greatestFrame] at short
  omega

/-- The case split of a packet, for a piece at an offset that a header can hold. -/
theorem accept_fragment (receiver : Receiver) (front : Bytes) (header : PacketHeader)
    (timestamp : UInt32) (offset : Nat) (last : Bool) {piece : Bytes} (someByte : piece ≠ [])
    (short : offset ≤ greatestFrame) :
    (receiver.holding front).accept (fragment header timestamp offset last piece) =
      if offset ≠ front.length then
        (.error (.fragmentMismatch (min front.length greatestOffset) offset), receiver.holding [])
      else if receiver.config.maxFrameSize < (front ++ piece).length then
        (.error (.frameTooLarge (front ++ piece).length receiver.config.maxFrameSize),
          receiver.holding [])
      else if last then complete (receiver.holding []) header timestamp (front ++ piece)
      else (.ok none, receiver.holding (front ++ piece)) := by
  have exactly := toNat_offset short
  have split := gather_holding receiver front (fragment header timestamp offset last piece) someByte
  simp only [fragment, exactly] at split
  exact split

/-- A piece that does not go behind the bytes at hand is refused, and they are dropped. -/
theorem accept_astray (receiver : Receiver) (front : Bytes) (header : PacketHeader)
    (timestamp : UInt32) (offset : Nat) (last : Bool) {piece : Bytes} (someByte : piece ≠ [])
    (short : offset ≤ greatestFrame) (astray : offset ≠ front.length) :
    (receiver.holding front).accept (fragment header timestamp offset last piece) =
      (.error (.fragmentMismatch (min front.length greatestOffset) offset),
        receiver.holding []) := by
  rw [accept_fragment receiver front header timestamp offset last someByte short, if_pos astray]

/-! ## The packets of a frame -/

/-- Nothing came of the packets, and nothing is left of them. -/
def Wasted (receiver : Receiver) (outcome : List Answer × Receiver) : Prop :=
  (∀ answer ∈ outcome.1, Idle answer) ∧ outcome.2 = receiver.holding []

theorem Wasted.cons {receiver : Receiver} {answer : Answer} {outcome : List Answer × Receiver}
    (idle : Idle answer) (wasted : receiver.Wasted outcome) :
    receiver.Wasted (answer :: outcome.1, outcome.2) := by
  constructor
  · intro other membership
    rcases List.mem_cons.1 membership with first | later
    · rw [first]
      exact idle
    · exact wasted.1 other later
  · exact wasted.2

/-- A refused packet, lost or not, leaves the others to be wasted. -/
theorem Wasted.of_refused {lost : Nat → Bool} {receiver : Receiver} {front : Bytes}
    {position : Nat} {packet : Packet} {rest : List Packet} {answer : Answer}
    (refused : (receiver.holding front).accept packet = (answer, receiver.holding []))
    (idle : Idle answer)
    (wasted : receiver.Wasted ((receiver.holding []).acceptOver lost (position + 1) rest)) :
    receiver.Wasted ((receiver.holding front).acceptOver lost position (packet :: rest)) := by
  cases gap : lost position with
  | true =>
      rw [acceptOver_lost gap, discard_holding]
      exact wasted
  | false =>
      rw [acceptOver_kept gap refused]
      exact Wasted.cons idle wasted

section Frame

variable (lost : Nat → Bool) (receiver : Receiver) (header : PacketHeader) (timestamp : UInt32)
variable {pieces : List Bytes}

/-- Behind the first fragment, nothing finds a place in a receiver that holds nothing. -/
theorem acceptOver_astray (position offset count : Nat) (behind : 0 < offset)
    (filled : ∀ piece ∈ pieces, piece ≠ [])
    (short : offset + pieces.flatten.length ≤ greatestFrame) :
    receiver.Wasted ((receiver.holding []).acceptOver lost position
      ((packetsFrom header timestamp offset pieces).take count)) := by
  induction pieces generalizing position offset count with
  | nil => exact ⟨by simp [packetsFrom, acceptOver], by simp [packetsFrom, acceptOver]⟩
  | cons piece rest ih =>
      cases count with
      | zero => exact ⟨by simp [acceptOver], by simp [acceptOver]⟩
      | succ count =>
          obtain ⟨someByte, filledRest⟩ := List.forall_mem_cons.1 filled
          rw [List.flatten_cons, List.length_append] at short
          have refused := accept_astray receiver [] header timestamp offset rest.isEmpty
            someByte (by omega) (Nat.ne_of_gt behind)
          rw [packetsFrom_cons, List.take_succ_cons]
          apply Wasted.of_refused refused (.astray _ _)
          exact ih (position + 1) (offset + piece.length) count (by omega) filledRest (by omega)

/-- A receiver that still holds the front of another frame has no place for any fragment. -/
theorem acceptOver_torn (position count : Nat) {front : Bytes} (held : front ≠ [])
    (somePacket : 0 < count) (somePiece : pieces ≠ []) (filled : ∀ piece ∈ pieces, piece ≠ [])
    (short : pieces.flatten.length ≤ greatestFrame) :
    receiver.Wasted ((receiver.holding front).acceptOver lost position
      ((packetsFrom header timestamp 0 pieces).take count)) := by
  obtain ⟨piece, rest, rfl⟩ := List.exists_cons_of_ne_nil somePiece
  obtain ⟨count, rfl⟩ := Nat.exists_eq_succ_of_ne_zero (Nat.ne_of_gt somePacket)
  obtain ⟨someByte, filledRest⟩ := List.forall_mem_cons.1 filled
  have bytes := List.length_pos_iff.2 someByte
  have refused := accept_astray receiver front header timestamp 0 rest.isEmpty someByte
    (Nat.zero_le _) (Nat.ne_of_lt (List.length_pos_iff.2 held))
  rw [List.flatten_cons, List.length_append] at short
  rw [packetsFrom_cons, List.take_succ_cons]
  apply Wasted.of_refused refused (.astray _ _)
  exact acceptOver_astray lost receiver header timestamp (position + 1) (0 + piece.length) count
    (by omega) filledRest (by omega)

/-- The packets in front of the last one do not end the frame. -/
theorem inner_packetsFrom {offset count : Nat} (more : count < pieces.length)
    (short : offset + pieces.flatten.length ≤ greatestFrame) :
    Inner offset ((packetsFrom header timestamp offset pieces).take count) := by
  induction pieces generalizing offset count with
  | nil => exact absurd more (Nat.not_lt_zero count)
  | cons piece rest ih =>
      cases count with
      | zero => exact trivial
      | succ count =>
          have others : count < rest.length := Nat.lt_of_succ_lt_succ more
          have goesOn : rest.isEmpty = false := by
            cases rest with
            | nil => exact absurd others (Nat.not_lt_zero count)
            | cons => rfl
          rw [List.flatten_cons, List.length_append, ← Nat.add_assoc] at short
          have place : (UInt32.ofNat offset).toNat = offset := toNat_offset (by omega)
          rw [packetsFrom_cons, List.take_succ_cons]
          exact ⟨fun _ => rfl, fun _ => ⟨place, goesOn⟩, ih others short⟩

/-- The last packet of a frame stands behind those with the other pieces. -/
theorem packetsFrom_concat (piece : Bytes) :
    packetsFrom header timestamp 0 (pieces ++ [piece]) =
      (packetsFrom header timestamp 0 (pieces ++ [piece])).take pieces.length ++
        [fragment header timestamp pieces.flatten.length true piece] := by
  have last := getElem?_packetsFrom header timestamp 0 pieces.length (pieces ++ [piece])
  rw [List.getElem?_concat_length, List.take_left, Nat.zero_add, List.length_append,
    List.length_singleton, beq_self_eq_true] at last
  have whole := List.take_length (l := packetsFrom header timestamp 0 (pieces ++ [piece]))
  rw [length_packetsFrom, List.length_append, List.length_singleton, List.take_add_one,
    last] at whole
  exact whole.symm

/-- The packets of a frame are a cut of its bytes. -/
theorem cut_packetsFrom {piece : Bytes} (someByte : piece ≠ [])
    (short : (pieces ++ [piece]).flatten.length ≤ greatestFrame) :
    Cut (pieces ++ [piece]).flatten
      ((packetsFrom header timestamp 0 (pieces ++ [piece])).take pieces.length)
      (fragment header timestamp pieces.flatten.length true piece) := by
  have front : carried ((packetsFrom header timestamp 0 (pieces ++ [piece])).take pieces.length) =
      pieces.flatten := by
    rw [carried, List.map_take, payloads_packetsFrom, List.take_left]
  constructor
  · apply inner_packetsFrom
    · simp
    · simpa using short
  · rw [front]
    refine ⟨someByte, toNat_offset ?_, rfl, fun _ => rfl⟩
    rw [List.flatten_append, List.length_append] at short
    exact Nat.le_of_add_right_le short
  · rw [front]
    simp [fragment]

/-- A receiver in step holds the front of the frame, as long as it goes on without a gap. -/
theorem acceptOver_front (position count : Nat) (more : count < pieces.length)
    (kept : Kept lost position count)
    (fits : (pieces.take count).flatten.length ≤ receiver.config.maxFrameSize)
    (short : pieces.flatten.length ≤ greatestFrame) :
    (receiver.holding []).acceptOver lost position
        ((packetsFrom header timestamp 0 pieces).take count) =
      (List.replicate count (.ok none), receiver.holding (pieces.take count).flatten) := by
  have length : ((packetsFrom header timestamp 0 pieces).take count).length = count := by
    rw [List.length_take, length_packetsFrom, Nat.min_eq_left (Nat.le_of_lt more)]
  have front : carried ((packetsFrom header timestamp 0 pieces).take count) =
      (pieces.take count).flatten := by
    rw [carried, List.map_take, payloads_packetsFrom]
  have inner : Inner ([] : Bytes).length ((packetsFrom header timestamp 0 pieces).take count) :=
    inner_packetsFrom header timestamp more (by rwa [List.length_nil, Nat.zero_add])
  rw [acceptOver_of_kept (length.symm ▸ kept), acceptAll_inner receiver inner (by rwa [front]),
    length, front, List.nil_append]

/-- A receiver in step completes the frame with its last packet, where none is lost. -/
theorem acceptOver_whole (position : Nat) (somePiece : pieces ≠ [])
    (kept : Kept lost position pieces.length) (filled : ∀ piece ∈ pieces, piece ≠ [])
    (fits : pieces.flatten.length ≤ receiver.config.maxFrameSize)
    (short : pieces.flatten.length ≤ greatestFrame) :
    (receiver.holding []).acceptOver lost position (packetsFrom header timestamp 0 pieces) =
      (List.replicate (pieces.length - 1) (.ok none) ++
          [(complete (receiver.holding []) header timestamp pieces.flatten).1],
        (complete (receiver.holding []) header timestamp pieces.flatten).2) := by
  rcases List.eq_nil_or_concat pieces with rfl | ⟨inits, piece, rfl⟩
  · exact absurd rfl somePiece
  · rw [List.concat_eq_append] at *
    have someByte := filled piece (List.mem_append_right _ List.mem_cons_self)
    have cut := cut_packetsFrom header timestamp someByte short
    have read := acceptAll_cut receiver cut fits
    have quiet : ((packetsFrom header timestamp 0 (inits ++ [piece])).take inits.length).length =
        (inits ++ [piece]).length - 1 := by simp
    rw [← packetsFrom_concat, quiet] at read
    rw [← length_packetsFrom header timestamp 0] at kept
    rw [acceptOver_of_kept kept]
    exact read

/-- A loss or the bound on frames ends the frame in a receiver in step. -/
theorem acceptOver_broken (position count : Nat) (front : Bytes) (inside : count ≤ pieces.length)
    (filled : ∀ piece ∈ pieces, piece ≠ [])
    (held : front.length ≤ receiver.config.maxFrameSize)
    (broken : ¬Kept lost position count ∨
      receiver.config.maxFrameSize < (front ++ (pieces.take count).flatten).length)
    (short : front.length + pieces.flatten.length ≤ greatestFrame) :
    receiver.Wasted ((receiver.holding front).acceptOver lost position
      ((packetsFrom header timestamp front.length pieces).take count)) := by
  induction pieces generalizing position count front with
  | nil =>
      obtain rfl : count = 0 := by simpa using inside
      rcases broken with gap | oversized
      · exact absurd (kept_zero lost position) gap
      · rw [List.take_nil, List.flatten_nil, List.append_nil] at oversized
        exact absurd held (Nat.not_le_of_lt oversized)
  | cons piece rest ih =>
      cases count with
      | zero =>
          rcases broken with gap | oversized
          · exact absurd (kept_zero lost position) gap
          · rw [List.take_zero, List.flatten_nil, List.append_nil] at oversized
            exact absurd held (Nat.not_le_of_lt oversized)
      | succ count =>
          obtain ⟨someByte, filledRest⟩ := List.forall_mem_cons.1 filled
          have bytes := List.length_pos_iff.2 someByte
          rw [List.flatten_cons, List.length_append] at short
          have others := acceptOver_astray lost receiver header timestamp (position + 1)
            (front.length + piece.length) count (by omega)
            filledRest (by omega)
          rw [packetsFrom_cons, List.take_succ_cons]
          cases gap : lost position with
          | true =>
              rw [acceptOver_lost gap, discard_holding]
              exact others
          | false =>
              have accepted := accept_fragment receiver front header timestamp front.length
                rest.isEmpty someByte (by omega)
              rw [if_neg (by simp)] at accepted
              by_cases oversized :
                  receiver.config.maxFrameSize < (front ++ piece).length
              · rw [if_pos oversized] at accepted
                exact Wasted.of_refused accepted (.oversized _ _) others
              · rw [if_neg oversized] at accepted
                have still : ¬Kept lost (position + 1) count ∨
                    receiver.config.maxFrameSize <
                      (front ++ piece ++ (rest.take count).flatten).length := by
                  rw [kept_succ_iff, List.take_succ_cons, List.flatten_cons,
                    ← List.append_assoc] at broken
                  exact broken.imp (fun either kept => either ⟨gap, kept⟩) id
                cases rest with
                | nil =>
                    obtain rfl : count = 0 := by simpa using inside
                    rcases still with gap | longer
                    · exact absurd (kept_zero lost (position + 1)) gap
                    · rw [List.take_nil, List.flatten_nil, List.append_nil] at longer
                      exact absurd longer oversized
                | cons next rest =>
                    simp only [List.isEmpty_cons, Bool.false_eq_true, if_false] at accepted
                    have wasted := ih (position + 1) count (front ++ piece)
                      (Nat.le_of_succ_le_succ inside)
                      filledRest
                      (Nat.le_of_not_lt oversized) still
                      (by simp only [List.length_append]; omega)
                    rw [List.length_append] at wasted
                    rw [List.isEmpty_cons, acceptOver_kept gap accepted]
                    exact Wasted.cons .nothing wasted

end Frame

end FrameLink.Receiver

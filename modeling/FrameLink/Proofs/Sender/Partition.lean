import FrameLink.Proofs.Sender.Announced
import FrameLink.Proofs.Sender.Fragments

/-!
# The packets of a frame partition its bytes

Every packet of a frame but the last is full, each stands where the ones in front of it end, and
together they carry the bytes of the frame (`Sender.Partitions`). The cutting is done in machine
words: an offset goes up by the room of a packet, and stops at the end of the frame. No round of
that loop leaves its words (`Sender.Rounds`), however great the room.
-/

namespace FrameLink

/-! ## The packets -/

namespace Sender

open FrameLink.Receiver (carried)

/-- The packets of bytes partition them: at an MTU, under a header that only the offset of a packet
adds to. -/
structure Partitions (mtu : Nat) (header : PacketHeader) (timestamp : UInt32) (bytes : Bytes)
    (packets : List Packet) : Prop where
  carries : carried packets = bytes
  count : packets.length =
    (bytes.length + (mtu - PacketHeader.size) - 1) / (mtu - PacketHeader.size)
  empty_iff : packets = [] ↔ bytes = []
  /-- Every packet but the last is full. -/
  full : ∀ index packet, packets[index]? = some packet → index + 1 < packets.length →
    packet.payload.length = mtu - PacketHeader.size
  filled : ∀ packet ∈ packets, 1 ≤ packet.payload.length ∧
    packet.payload.length ≤ mtu - PacketHeader.size ∧ packet.size ≤ mtu
  /-- A packet stands where the ones in front of it end. -/
  offset : ∀ index packet, packets[index]? = some packet →
    packet.header.offset.toNat = (carried (packets.take index)).length
  marker : ∀ index packet, packets[index]? = some packet →
    (packet.marker = true ↔ index + 1 = packets.length)
  /-- Nothing but its place tells a packet from the others. -/
  alike : ∀ packet ∈ packets, packet.header = { header with offset := packet.header.offset } ∧
    packet.timestamp = timestamp ∧ packet.discont = false

/-- A packet of a frame has its place, its piece, and nothing else of its own. -/
theorem getElem?_fragments {sender : Sender} {frame : Frame} {index : Nat} {packet : Packet}
    (there : (sender.fragments frame)[index]? = some packet) :
    ∃ piece, (sender.pieces frame)[index]? = some piece ∧
      packet = Receiver.fragment (sender.header frame) frame.timestamp
        ((sender.pieces frame).take index).flatten.length
        (index + 1 == (sender.pieces frame).length) piece := by
  rw [fragments, Receiver.getElem?_packetsFrom, Option.map_eq_some_iff] at there
  obtain ⟨piece, there, rfl⟩ := there
  refine ⟨piece, there, ?_⟩
  rw [Nat.zero_add]

/-- The packets of a frame partition its bytes. -/
theorem partitions_fragments {sender : Sender} {frame : Frame}
    (short : (sender.serialize frame).length ≤ greatestFrame) :
    Partitions sender.mtu (sender.header frame) frame.timestamp (sender.serialize frame)
      (sender.fragments frame) where
  carries := carried_fragments sender frame
  count := by rw [length_fragments, pieces, Bytes.length_pieces sender.room_pos, room]
  empty_iff := by
    constructor
    · intro nothing
      apply Decidable.byContradiction
      intro someByte
      apply pieces_ne_nil someByte
      rw [← List.length_eq_zero_iff, ← length_fragments, nothing, List.length_nil]
    · exact fragments_of_empty
  full := by
    intro index packet there inner
    obtain ⟨piece, cut, rfl⟩ := getElem?_fragments there
    rw [length_fragments] at inner
    exact Bytes.length_of_getElem?_pieces cut inner
  filled := by
    intro packet member
    obtain ⟨index, there⟩ := List.mem_iff_getElem?.1 member
    obtain ⟨piece, cut, rfl⟩ := getElem?_fragments there
    obtain ⟨someByte, fits⟩ := Bytes.length_of_mem_pieces (List.mem_of_getElem? cut)
    refine ⟨someByte, fits, ?_⟩
    have roomy := sender.roomy
    simp only [Packet.size, Receiver.fragment, room] at fits ⊢
    omega
  offset := by
    intro index packet there
    obtain ⟨piece, _, rfl⟩ := getElem?_fragments there
    have inside := Nat.le_trans (length_flatten_take_le sender frame index) short
    have front : carried ((sender.fragments frame).take index) =
        ((sender.pieces frame).take index).flatten := by
      rw [fragments, carried, List.map_take, Receiver.payloads_packetsFrom]
    rw [front]
    simp only [Receiver.fragment, UInt32.toNat_ofNat']
    exact Nat.mod_eq_of_lt (Nat.lt_of_le_of_lt inside (by decide))
  marker := by
    intro index packet there
    obtain ⟨piece, _, rfl⟩ := getElem?_fragments there
    rw [length_fragments, Receiver.fragment, beq_iff_eq]
  alike := by
    intro packet member
    obtain ⟨index, there⟩ := List.mem_iff_getElem?.1 member
    obtain ⟨piece, _, rfl⟩ := getElem?_fragments there
    exact ⟨rfl, rfl, rfl⟩

/-! ## The loop -/

/-- Where a round of the loop stops: the room further on, or at the end of the frame. -/
def roundStop (total room offset : UInt64) : UInt64 :=
  if offset + room < total then offset + room else total

/-- The loop over a frame in words of 64 bits: at an offset, with so many packets made, it ends with
these packets and this count. A round adds the room to its offset, takes the distance to where it
stops, narrows its offset to 32 bits and counts its packet. It is one only where no sum is carried
out of its word, no difference borrows, and no bit of the offset is cut off. -/
inductive Rounds (header : PacketHeader) (timestamp : UInt32) (bytes : Bytes)
    (total room : UInt64) : UInt64 → UInt64 → List Packet → UInt64 → Prop
  | ends {offset sent : UInt64} (done : total ≤ offset) :
      Rounds header timestamp bytes total room offset sent [] sent
  | round {offset stop sent count : UInt64} {packets : List Packet}
      (more : offset < total)
      (stops : stop = roundStop total room offset)
      (noCarry : offset.toNat + room.toNat < UInt64.size)
      (noBorrow : offset ≤ stop)
      (counts : sent.toNat + 1 < UInt64.size)
      (narrows : offset.toUInt32.toUInt64 = offset)
      (rest : Rounds header timestamp bytes total room stop (sent + 1) packets count) :
      Rounds header timestamp bytes total room offset sent
        ({header := { header with offset := offset.toUInt32 }
          marker := stop == total
          discont := false
          timestamp := timestamp
          payload := (bytes.drop offset.toNat).take (stop - offset).toNat } :: packets) count

section Rounds

variable {header : PacketHeader} {timestamp : UInt32} {total room offset sent : UInt64}
variable {front back : Bytes}

theorem toNat_roundStop (inside : offset.toNat ≤ total.toNat)
    (noCarry : offset.toNat + room.toNat < UInt64.size) :
    (roundStop total room offset).toNat =
      offset.toNat + min room.toNat (total.toNat - offset.toNat) := by
  have sum : (offset + room).toNat = offset.toNat + room.toNat := by
    rw [UInt64.toNat_add]
    exact Nat.mod_eq_of_lt noCarry
  unfold roundStop
  split
  next below =>
    rw [UInt64.lt_iff_toNat_lt] at below
    omega
  next reached =>
    rw [UInt64.lt_iff_toNat_lt] at reached
    omega

theorem toNat_succ (counts : sent.toNat + 1 < UInt64.size) : (sent + 1).toNat = sent.toNat + 1 := by
  rw [UInt64.toNat_add]
  exact Nat.mod_eq_of_lt counts

/-- A round cuts the next piece off. -/
theorem Rounds.piece {packets : List Packet} {count : UInt64} (positive : 0 < room.toNat)
    (someByte : back ≠ []) (whole : total.toNat = front.length + back.length)
    (place : offset.toNat = front.length) (short : total.toNat ≤ greatestFrame)
    (noCarry : offset.toNat + room.toNat < UInt64.size) (counts : sent.toNat + 1 < UInt64.size)
    (rest : Rounds header timestamp (front ++ back) total room (roundStop total room offset)
      (sent + 1) packets count) :
    Rounds header timestamp (front ++ back) total room offset sent
      (Receiver.fragment header timestamp front.length (back.drop room.toNat).isEmpty
        (back.take room.toNat) :: packets) count := by
  have bytes := List.length_pos_iff.2 someByte
  have inside : offset.toNat ≤ total.toNat := by omega
  have stop := toNat_roundStop inside noCarry
  have more : offset < total := by
    rw [UInt64.lt_iff_toNat_lt]
    omega
  have noBorrow : offset ≤ roundStop total room offset := by
    rw [UInt64.le_iff_toNat_le]
    omega
  have narrows : offset.toUInt32.toNat = offset.toNat := by
    rw [UInt64.toNat_toUInt32]
    simp only [greatestFrame] at short
    omega
  have widened : offset.toUInt32.toUInt64 = offset := by
    rw [← UInt64.toNat_inj, UInt32.toNat_toUInt64, narrows]
  have narrowed : offset.toUInt32 = UInt32.ofNat front.length := by
    rw [← place, ← narrows, UInt32.ofNat_toNat]
  have ends : (roundStop total room offset == total) = (back.drop room.toNat).isEmpty := by
    rw [Bool.eq_iff_iff, beq_iff_eq, List.isEmpty_iff, List.drop_eq_nil_iff, ← UInt64.toNat_inj,
      stop]
    omega
  have cut : ((front ++ back).drop offset.toNat).take (roundStop total room offset - offset).toNat =
      back.take room.toNat := by
    rw [UInt64.toNat_sub_of_le _ _ noBorrow, stop, place, List.drop_left, Nat.add_sub_cancel_left,
      whole, Nat.add_sub_cancel_left]
    exact List.take_eq_take_min.symm
  have round := Rounds.round more rfl noCarry noBorrow counts widened rest
  rw [ends, cut, narrowed] at round
  exact round

/-- The loop cuts what is left of a frame into its pieces. A room that does not go behind the offset
is added at offset 0 alone: any other offset is a multiple of the room. -/
theorem rounds_packetsFrom (positive : 0 < room.toNat)
    (whole : total.toNat = front.length + back.length) (place : offset.toNat = front.length)
    (short : total.toNat ≤ greatestFrame)
    (noCarry : back ≠ [] → offset.toNat + room.toNat < UInt64.size)
    (counts : sent.toNat + back.length < UInt64.size) :
    Rounds header timestamp (front ++ back) total room offset sent
      (packetsFrom header timestamp front.length (Bytes.pieces room.toNat back))
      (sent + UInt64.ofNat (Bytes.pieces room.toNat back).length) := by
  fun_induction Bytes.pieces room.toNat back generalizing front offset sent with
  | case1 back stops =>
      obtain rfl : back = [] := stops.resolve_left (Nat.ne_of_gt positive)
      have nothing : sent + UInt64.ofNat ([] : List Bytes).length = sent := by simp
      rw [nothing]
      apply Rounds.ends
      rw [UInt64.le_iff_toNat_le, whole, place]
      exact Nat.le_refl _
  | case2 back goes ih =>
      have someByte := (not_or.1 goes).2
      have bytes := List.length_pos_iff.2 someByte
      have inside : offset.toNat ≤ total.toNat := by omega
      have counted : sent.toNat + 1 < UInt64.size := by omega
      have piece : (back.take room.toNat).length = min room.toNat back.length := List.length_take
      have left : (back.drop room.toNat).length = back.length - room.toNat := List.length_drop
      have stop : (roundStop total room offset).toNat =
          front.length + (back.take room.toNat).length := by
        rw [toNat_roundStop inside (noCarry someByte)]
        omega
      have next := toNat_succ counted
      -- Behind a full piece the offset has reached the room, and both are less than 2^32.
      have noCarryNext : back.drop room.toNat ≠ [] →
          (roundStop total room offset).toNat + room.toNat < UInt64.size := by
        intro more
        have behind := List.length_pos_iff.2 more
        simp only [greatestFrame, UInt64.size] at *
        omega
      have rest : Rounds header timestamp (front ++ back.take room.toNat ++ back.drop room.toNat)
          total room (roundStop total room offset) (sent + 1)
          (packetsFrom header timestamp (front ++ back.take room.toNat).length
            (Bytes.pieces room.toNat (back.drop room.toNat)))
          (sent + 1 + UInt64.ofNat (Bytes.pieces room.toNat (back.drop room.toNat)).length) :=
        ih (by rw [List.length_append]; omega) (by rw [List.length_append, stop]) noCarryNext
          (by omega)
      rw [List.append_assoc, List.take_append_drop, List.length_append] at rest
      have round := Rounds.piece positive someByte whole place short (noCarry someByte) counted rest
      have sum : sent + UInt64.ofNat ((Bytes.pieces room.toNat (back.drop room.toNat)).length + 1) =
          sent + 1 + UInt64.ofNat (Bytes.pieces room.toNat (back.drop room.toNat)).length := by
        rw [UInt64.ofNat_add, UInt64.add_comm (UInt64.ofNat _), UInt64.add_assoc]
        rfl
      rw [Receiver.packetsFrom_cons, Bytes.isEmpty_pieces positive, List.length_cons, sum]
      exact round

end Rounds

/-- For every sender whose MTU is a machine word, and every frame that is short enough for its
offsets: the packets that it is encoded as partition its bytes, each of at most the MTU, and the
loop that cuts them ends without ever leaving its words. -/
theorem encode_partition (sender : Sender) (frame : Frame) (word : sender.mtu < UInt64.size)
    (short : ((sender.adopt frame).serialize frame).length < UInt32.size) :
    let adopted := sender.adopt frame
    let bytes := adopted.serialize frame
    ∃ packets, sender.encode frame = (.ok packets, adopted.settled) ∧
      Partitions sender.mtu (adopted.header frame) frame.timestamp bytes packets ∧
      UInt64.ofNat PacketHeader.size ≤ UInt64.ofNat sender.mtu ∧
      Rounds (adopted.header frame) frame.timestamp bytes (UInt64.ofNat bytes.length)
        (UInt64.ofNat sender.mtu - UInt64.ofNat PacketHeader.size) 0 0 packets
        (UInt64.ofNat packets.length) := by
  intro adopted bytes
  have fits : bytes.length ≤ greatestFrame := Nat.le_of_lt_succ short
  have partition := partitions_fragments fits
  rw [mtu_adopt] at partition
  have roomy := sender.roomy
  have mtu : (UInt64.ofNat sender.mtu).toNat = sender.mtu := UInt64.toNat_ofNat_of_lt' word
  have header : (UInt64.ofNat PacketHeader.size).toNat = PacketHeader.size := rfl
  have noBorrow : UInt64.ofNat PacketHeader.size ≤ UInt64.ofNat sender.mtu := by
    rw [UInt64.le_iff_toNat_le, mtu, header]
    exact Nat.le_of_lt roomy
  have room : (UInt64.ofNat sender.mtu - UInt64.ofNat PacketHeader.size).toNat = adopted.room := by
    rw [UInt64.toNat_sub_of_le _ _ noBorrow, mtu, header, Sender.room, mtu_adopt]
  have total : (UInt64.ofNat bytes.length).toNat = bytes.length :=
    UInt64.toNat_ofNat_of_lt' (Nat.lt_of_le_of_lt fits (by decide))
  have rounds : Rounds (adopted.header frame) frame.timestamp ([] ++ bytes)
      (UInt64.ofNat bytes.length) (UInt64.ofNat sender.mtu - UInt64.ofNat PacketHeader.size) 0 0
      (adopted.fragments frame) (0 + UInt64.ofNat (adopted.pieces frame).length) := by
    rw [fragments, pieces, ← room]
    apply rounds_packetsFrom
    · rw [room]
      exact adopted.room_pos
    · rw [total, List.length_nil, Nat.zero_add]
    · rfl
    · rw [total]
      exact fits
    · intro _
      rw [room, Sender.room, mtu_adopt, UInt64.toNat_zero]
      omega
    · rw [UInt64.toNat_zero]
      exact Nat.lt_of_le_of_lt (Nat.le_trans (Nat.le_of_eq (Nat.zero_add _)) fits) (by decide)
  rw [List.nil_append, UInt64.zero_add, ← length_fragments] at rounds
  exact ⟨_, encode_of_short fits, partition, noBorrow, rounds⟩

/-- Packets of two bytes each, for a frame whose announcement ends inside the second one. -/
theorem encode_partition_announced :
    let frame : Frame := { Frame.blank with payload := [1, 2], descriptor := some ⟨"v"⟩ }
    ∃ sender, create ⟨10, none⟩ = .ok sender ∧ sender.mtu < UInt64.size ∧
      ((sender.adopt frame).serialize frame).length < UInt32.size ∧
      ∃ packets, sender.encode frame = (.ok packets, (sender.adopt frame).settled) ∧
        packets.map Packet.payload = [[2, 118], [0, 1], [2]] ∧
        Partitions 10 ((sender.adopt frame).header frame) 0 [2, 118, 0, 1, 2] packets ∧
        Rounds ((sender.adopt frame).header frame) 0 [2, 118, 0, 1, 2] 5 2 0 0 packets
          (UInt64.ofNat packets.length) := by
  intro frame
  have roomy : PacketHeader.size < (SenderConfig.mk 10 none).mtu := by decide
  obtain ⟨sender, created, mtu, _⟩ := create_of_roomy roomy
  have bytes : (sender.adopt frame).serialize frame = [2, 118, 0, 1, 2] := by
    cases created
    decide +kernel
  have cut : (sender.adopt frame).pieces frame = [[2, 118], [0, 1], [2]] := by
    rw [pieces, bytes, room, mtu_adopt, mtu]
    decide +kernel
  have word : sender.mtu < UInt64.size := by
    rw [mtu]
    decide
  have short : ((sender.adopt frame).serialize frame).length < UInt32.size := by
    rw [bytes]
    decide
  obtain ⟨packets, encoded, partition, _, rounds⟩ := encode_partition sender frame word short
  refine ⟨sender, created, word, short, packets, encoded, ?_, ?_, ?_⟩
  · rw [encode_of_short (Nat.le_of_lt_succ short)] at encoded
    cases encoded
    rw [fragments, Receiver.payloads_packetsFrom, cut]
  · rw [bytes, mtu] at partition
    exact partition
  · rw [bytes, mtu] at rounds
    exact rounds

end Sender

end FrameLink

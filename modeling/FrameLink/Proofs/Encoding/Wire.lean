import FrameLink.Proofs.Encoding.Header
import FrameLink.Receiver.Basic

/-!
# The bytes on the wire

Both headers are read from exactly the bytes that they are written as, with one exception: the low
six bits of the first byte of a carrier header are not looked at, and are written as zero. So a
packet comes through both layers as it was, and what is read tells which bytes it was read from.
-/

namespace FrameLink

/-! ## Words -/

theorem Bytes.bigEndian_uInt16 (high low : UInt8) :
    bigEndian 2 (UInt16.ofNat (ofBigEndian [high, low])).toNat = [high, low] := by
  have fits : ofBigEndian [high, low] < 256 ^ 2 := ofBigEndian_lt [high, low]
  rw [UInt16.toNat_ofNat_of_lt' fits]
  exact bigEndian_ofBigEndian [high, low]

theorem Bytes.bigEndian_uInt32 (first second third fourth : UInt8) :
    bigEndian 4 (UInt32.ofNat (ofBigEndian [first, second, third, fourth])).toNat =
      [first, second, third, fourth] := by
  have fits : ofBigEndian [first, second, third, fourth] < 256 ^ 4 :=
    ofBigEndian_lt [first, second, third, fourth]
  rw [UInt32.toNat_ofNat_of_lt' fits]
  exact bigEndian_ofBigEndian [first, second, third, fourth]

/-! ## Packets -/

theorem FrameFlags.bits_ofBits (value : Nat) : (ofBits value).bits = value % 16 := by
  have bit (value : Nat) : (decide (value % 2 = 1)).toNat = value % 2 := by
    rcases Nat.mod_two_eq_zero_or_one value with zero | one
    · rw [zero]
      rfl
    · rw [one]
      rfl
  simp only [bits, ofBits, bit]
  omega

namespace PacketHeader

/-- The first byte is put together as it was taken apart. -/
theorem flagsByte_of_parts (header : PacketHeader) (first : UInt8)
    (caps : header.capsInline = decide (128 ≤ first.toNat))
    (version : header.version.val = first.toNat / 16 % 8)
    (flags : header.flags = .ofBits first.toNat) : header.flagsByte = first := by
  have fits := first.toNat_lt
  rw [← UInt8.toNat_inj, toNat_flagsByte, caps, version, flags, FrameFlags.bits_ofBits]
  rcases Nat.lt_or_ge first.toNat 128 with clear | set
  · rw [decide_eq_false (Nat.not_le.2 clear), Bool.toNat_false]
    omega
  · rw [decide_eq_true set, Bool.toNat_true]
    omega

/-- A header that was read is written as the bytes that it was read from. -/
theorem encode_of_decode {bytes payload : Bytes} {header : PacketHeader}
    (read : decode bytes = .ok (header, payload)) : bytes = header.encode ++ payload := by
  unfold decode at read
  split at read
  next first eventType r₁ r₂ o₁ o₂ o₃ o₄ rest =>
    split at read
    next => cases read
    next reserved =>
      have zero : [r₁, r₂] = [0, 0] := by
        rw [← Bytes.bigEndian_ofBigEndian [r₁, r₂], of_not_not reserved]
        rfl
      cases zero
      cases read
      rw [encode, flagsByte_of_parts _ first rfl rfl rfl]
      dsimp only
      rw [Bytes.bigEndian_uInt32]
      rfl
  next => cases read

/-- A header is read from the bytes that it is written as, and from no others. -/
theorem decode_eq_ok_iff {bytes payload : Bytes} {header : PacketHeader} :
    decode bytes = .ok (header, payload) ↔ bytes = header.encode ++ payload := by
  refine ⟨encode_of_decode, ?_⟩
  rintro rfl
  exact decode_encode header payload

theorem exists_cons_of_size_le {bytes : Bytes} (long : size ≤ bytes.length) :
    ∃ first eventType r₁ r₂ o₁ o₂ o₃ o₄ payload,
      bytes = first :: eventType :: r₁ :: r₂ :: o₁ :: o₂ :: o₃ :: o₄ :: payload := by
  match bytes, long with
  | first :: eventType :: r₁ :: r₂ :: o₁ :: o₂ :: o₃ :: o₄ :: payload, _ =>
      exact ⟨first, eventType, r₁, r₂, o₁, o₂, o₃, o₄, payload, rfl⟩

/-- A header is read from eight bytes at least, the third and fourth of which are zero. -/
theorem exists_decode_iff {bytes : Bytes} :
    (∃ header payload, decode bytes = .ok (header, payload)) ↔
      size ≤ bytes.length ∧ bytes[2]? = some 0 ∧ bytes[3]? = some 0 := by
  constructor
  · rintro ⟨header, payload, read⟩
    rw [encode_of_decode read, List.length_append, length_encode]
    refine ⟨Nat.le_add_right _ _, ?_, ?_⟩
    · rw [encode, List.append_assoc]
      rfl
    · rw [encode, List.append_assoc]
      rfl
  · rintro ⟨long, third, fourth⟩
    obtain ⟨first, eventType, r₁, r₂, o₁, o₂, o₃, o₄, payload, rfl⟩ := exists_cons_of_size_le long
    cases third
    cases fourth
    rw [decode, if_neg (by decide)]
    exact ⟨_, payload, rfl⟩

end PacketHeader

/-! ## Datagrams -/

namespace CarrierHeader

/-- Bytes with the low six bits of the first one cleared. -/
def cleared (bytes : Bytes) : Bytes :=
  bytes.modifyHead (· &&& 0xC0)

/-- The first byte of a header. -/
def firstByte : UInt8 := UInt8.ofNat (version * 64)

theorem cleared_first_iff :
    ∀ first : UInt8, first &&& 0xC0 = firstByte ↔ first.toNat / 64 = version := by
  apply Bytes.forall_byte
  decide +kernel

theorem cleared_first_div : ∀ first : UInt8, (first &&& 0xC0).toNat / 64 = first.toNat / 64 := by
  apply Bytes.forall_byte
  decide +kernel

/-- The second byte is put together as it was taken apart. -/
theorem secondByte_of_parts (second : UInt8) :
    UInt8.ofNat ((decide (128 ≤ second.toNat)).toNat * 128 +
      (UInt8.ofNat (second.toNat % 128)).toNat % 128) = second := by
  have fits := second.toNat_lt
  have low : (UInt8.ofNat (second.toNat % 128)).toNat = second.toNat % 128 := by
    simp only [UInt8.toNat_ofNat']
    omega
  rw [← UInt8.toNat_inj, low, UInt8.toNat_ofNat']
  rcases Nat.lt_or_ge second.toNat 128 with clear | set
  · rw [decide_eq_false (Nat.not_le.2 clear), Bool.toNat_false]
    omega
  · rw [decide_eq_true set, Bool.toNat_true]
    omega

/-- A header that was read is written as the bytes that it was read from, but for the bits that were
not looked at. -/
theorem encode_of_decode {bytes payload : Bytes} {header : CarrierHeader}
    (read : decode bytes = .ok (header, payload)) :
    header.payloadType < 128 ∧ cleared bytes = header.encode ++ payload := by
  unfold decode at read
  split at read
  next first second s₁ s₂ t₁ t₂ t₃ t₄ i₁ i₂ i₃ i₄ rest =>
    split at read
    next => cases read
    next versioned =>
      cases read
      constructor
      · rw [UInt8.lt_iff_toNat_lt, UInt8.toNat_ofNat']
        exact Nat.lt_of_le_of_lt (Nat.mod_le _ _) (Nat.mod_lt _ (by decide))
      · rw [encode]
        dsimp only
        rw [secondByte_of_parts, Bytes.bigEndian_uInt16, Bytes.bigEndian_uInt32,
          Bytes.bigEndian_uInt32, ← firstByte,
          ← (cleared_first_iff first).2 (of_not_not versioned)]
        rfl
  next => cases read

theorem exists_cons_of_size_le {bytes : Bytes} (long : size ≤ bytes.length) :
    ∃ first second s₁ s₂ t₁ t₂ t₃ t₄ i₁ i₂ i₃ i₄ payload, bytes =
      first :: second :: s₁ :: s₂ :: t₁ :: t₂ :: t₃ :: t₄ :: i₁ :: i₂ :: i₃ :: i₄ :: payload := by
  match bytes, long with
  | first :: second :: s₁ :: s₂ :: t₁ :: t₂ :: t₃ :: t₄ :: i₁ :: i₂ :: i₃ :: i₄ :: payload, _ =>
      exact ⟨first, second, s₁, s₂, t₁, t₂, t₃, t₄, i₁, i₂, i₃, i₄, payload, rfl⟩

theorem decode_of_short {bytes : Bytes} (short : bytes.length < size) :
    decode bytes = .error (.datagramTooShort bytes.length size) := by
  unfold decode
  split
  next =>
    simp only [List.length_cons, size] at short
    omega
  next => rfl

/-- Only the top two bits of the first byte are looked at. -/
theorem decode_cleared (bytes : Bytes) : decode (cleared bytes) = decode bytes := by
  have length : (cleared bytes).length = bytes.length := List.length_modifyHead
  rcases Nat.lt_or_ge bytes.length size with short | long
  · rw [decode_of_short short, decode_of_short (length ▸ short), length]
  · obtain ⟨first, second, s₁, s₂, t₁, t₂, t₃, t₄, i₁, i₂, i₃, i₄, payload, rfl⟩ :=
      exists_cons_of_size_le long
    simp only [cleared, List.modifyHead_cons, decode, cleared_first_div]

/-- A header is read from the bytes that it is written as, whatever the low six bits of the first
one, and from no others. -/
theorem decode_eq_ok_iff {bytes payload : Bytes} {header : CarrierHeader} :
    decode bytes = .ok (header, payload) ↔
      header.payloadType < 128 ∧ cleared bytes = header.encode ++ payload := by
  refine ⟨encode_of_decode, ?_⟩
  rintro ⟨seven, same⟩
  have low : header.payloadType.toNat < 128 := UInt8.lt_iff_toNat_lt.1 seven
  rw [← decode_cleared, same, decode_encode, Nat.mod_eq_of_lt low, UInt8.ofNat_toNat]

/-- A header is read from twelve bytes at least, the top two bits of which are the version. -/
theorem exists_decode_iff {bytes : Bytes} :
    (∃ header payload, decode bytes = .ok (header, payload)) ↔
      size ≤ bytes.length ∧ bytes.head?.map (fun first => first.toNat / 64) = some version := by
  rcases Nat.lt_or_ge bytes.length size with short | long
  · rw [decode_of_short short]
    constructor
    · rintro ⟨header, payload, refused⟩
      cases refused
    · intro said
      exact absurd said.1 (Nat.not_le_of_lt short)
  · obtain ⟨first, second, s₁, s₂, t₁, t₂, t₃, t₄, i₁, i₂, i₃, i₄, payload, rfl⟩ :=
      exists_cons_of_size_le long
    rw [decode, List.head?_cons, Option.map_some, Option.some_inj]
    split
    next other =>
      constructor
      · rintro ⟨header, payload, refused⟩
        cases refused
      · intro said
        exact absurd said.2 other
    next versioned => exact iff_of_true ⟨_, _, rfl⟩ ⟨long, of_not_not versioned⟩

end CarrierHeader

/-! ## Both layers -/

/-- A datagram on the wire is read as its header, without the top bit of the payload type, and its
bytes. -/
theorem CarrierHeader.decode_wire (datagram : Datagram) (payloadType : UInt8) (sequence : UInt16)
    (streamId : UInt32) :
    decode (datagram.wire payloadType sequence streamId) =
      .ok (⟨datagram.marker, payloadType % 128, sequence, datagram.timestamp, streamId⟩,
        datagram.payload) := by
  have seven : UInt8.ofNat (payloadType.toNat % 128) = payloadType % 128 := by
    rw [← UInt8.toNat_inj, UInt8.toNat_mod, UInt8.toNat_ofNat']
    exact Nat.mod_eq_of_lt (Nat.lt_trans (Nat.mod_lt _ (by decide)) (by decide))
  rw [Datagram.wire, decode_encode, seven]

/-- A receiver does with the datagram of a packet what it does with the packet. -/
theorem Receiver.acceptDatagram_toDatagram (receiver : Receiver) (packet : Packet) :
    receiver.acceptDatagram { packet.toDatagram with discont := packet.discont } =
      receiver.accept packet := by
  rw [acceptDatagram, Packet.ofDatagram_toDatagram]

/-- Packets and datagrams come through the wire unchanged, and nothing else is taken for them. A
packet is read from the bytes of its datagram under any numbers, with no gap in front and without
the top bit of the payload type. A header of either layer is read from the bytes that it is written
as and from no others, a carrier header whatever the low six bits of its first byte. And a receiver
does with the datagram of a packet, gap and all, what it does with the packet. -/
theorem wire_exact :
    (∀ (packet : Packet) (payloadType : UInt8) (sequence : UInt16) (streamId : UInt32),
      let raw := packet.toDatagram.wire payloadType sequence streamId
      raw.length = 20 + packet.payload.length ∧
      ∃ payload,
        CarrierHeader.decode raw = .ok (⟨packet.marker, payloadType % 128, sequence,
          packet.timestamp, streamId⟩, payload) ∧
        Packet.ofDatagram ⟨packet.marker, packet.timestamp, false, payload⟩ =
          .ok { packet with discont := false }) ∧
    (∀ bytes,
      ((∃ header payload, PacketHeader.decode bytes = .ok (header, payload)) ↔
        8 ≤ bytes.length ∧ bytes[2]? = some 0 ∧ bytes[3]? = some 0) ∧
      ∀ header payload, PacketHeader.decode bytes = .ok (header, payload) ↔
        bytes = header.encode ++ payload) ∧
    (∀ bytes,
      ((∃ header payload, CarrierHeader.decode bytes = .ok (header, payload)) ↔
        12 ≤ bytes.length ∧ bytes.head?.map (fun first => first.toNat / 64) = some 2) ∧
      ∀ header payload, CarrierHeader.decode bytes = .ok (header, payload) ↔
        header.payloadType < 128 ∧
          bytes.modifyHead (· &&& 0xC0) = header.encode ++ payload) ∧
    ∀ (receiver : Receiver) (packet : Packet),
      receiver.acceptDatagram { packet.toDatagram with discont := packet.discont } =
        receiver.accept packet := by
  refine ⟨?_, ?_, ?_, Receiver.acceptDatagram_toDatagram⟩
  · intro packet payloadType sequence streamId raw
    constructor
    · rw [Datagram.length_wire, Datagram.wireSize, Packet.toDatagram, List.length_append,
        PacketHeader.length_encode, CarrierHeader.size, PacketHeader.size, ← Nat.add_assoc]
    · exact ⟨_, CarrierHeader.decode_wire packet.toDatagram payloadType sequence streamId,
        Packet.ofDatagram_toDatagram packet false⟩
  · intro bytes
    exact ⟨PacketHeader.exists_decode_iff, fun _ _ => PacketHeader.decode_eq_ok_iff⟩
  · intro bytes
    exact ⟨CarrierHeader.exists_decode_iff, fun _ _ => CarrierHeader.decode_eq_ok_iff⟩

end FrameLink

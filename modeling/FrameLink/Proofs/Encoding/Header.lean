import FrameLink.Carrier.Sequence
import FrameLink.Packet.Basic
import FrameLink.Proofs.Encoding.BigEndian

/-!
# Headers come back from their bytes

Both headers pack several fields into bytes of fixed places. Reading what was written gives every
field back: a packet survives its datagram, and a datagram survives the wire with the gap that the
tracker saw in front of it.
-/

namespace FrameLink

namespace FrameFlags

theorem bits_lt (flags : FrameFlags) : flags.bits < 16 := by
  obtain ⟨deltaUnit, media1, media2, media3⟩ := flags
  cases deltaUnit <;> cases media1 <;> cases media2 <;> cases media3 <;> decide

/-- Only the low four bits of a byte are flags. -/
theorem ofBits_add (high low : Nat) : ofBits (high * 16 + low) = ofBits low := by
  have delta : (high * 16 + low) / 8 % 2 = low / 8 % 2 := by omega
  have first : (high * 16 + low) / 4 % 2 = low / 4 % 2 := by omega
  have second : (high * 16 + low) / 2 % 2 = low / 2 % 2 := by omega
  have third : (high * 16 + low) % 2 = low % 2 := by omega
  simp only [ofBits, delta, first, second, third]

end FrameFlags

namespace PacketHeader

/-- The first byte holds its three fields side by side. -/
theorem toNat_flagsByte (header : PacketHeader) :
    header.flagsByte.toNat =
      (header.capsInline.toNat * 8 + header.version.val) * 16 + header.flags.bits := by
  have bits := header.flags.bits_lt
  have version := header.version.isLt
  have caps := header.capsInline.toNat_le
  simp only [flagsByte, UInt8.toNat_ofNat']
  omega

/-- A header is read off the front of what it was put in front of. -/
theorem decode_encode (header : PacketHeader) (payload : Bytes) :
    decode (header.encode ++ payload) = .ok (header, payload) := by
  have offset : Bytes.ofBigEndian (Bytes.bigEndian 4 header.offset.toNat) =
      header.offset.toNat := Bytes.ofBigEndian_bigEndian_of_lt header.offset.toNat_lt
  have bits := header.flags.bits_lt
  have version := header.version.isLt
  have caps : decide (128 ≤ header.flagsByte.toNat) = header.capsInline := by
    rw [toNat_flagsByte]
    cases header.capsInline <;> simp <;> omega
  have versionBits : header.flagsByte.toNat / 16 % 8 = header.version.val := by
    rw [toNat_flagsByte]
    omega
  have flags : FrameFlags.ofBits header.flagsByte.toNat = header.flags := by
    rw [toNat_flagsByte, FrameFlags.ofBits_add, FrameFlags.ofBits_bits]
  simp only [Bytes.bigEndian, List.nil_append, List.cons_append] at offset
  simp only [encode, Bytes.bigEndian, List.nil_append, List.cons_append, decode, caps,
    versionBits, flags, offset]
  simp [Bytes.ofBigEndian]

end PacketHeader

/-- A packet survives the datagram that carries it, which brings the gap in front of it along. -/
theorem Packet.ofDatagram_toDatagram (packet : Packet) (discont : Bool) :
    Packet.ofDatagram { packet.toDatagram with discont } = .ok { packet with discont } := by
  simp only [Packet.ofDatagram, Packet.toDatagram, PacketHeader.decode_encode]

namespace CarrierHeader

/-- A carrier header is read off the front of what it was put in front of, less the top bit of its
payload type. -/
theorem decode_encode (header : CarrierHeader) (payload : Bytes) :
    decode (header.encode ++ payload) =
      .ok ({ header with payloadType := UInt8.ofNat (header.payloadType.toNat % 128) },
        payload) := by
  have sequence : Bytes.ofBigEndian (Bytes.bigEndian 2 header.sequence.toNat) =
      header.sequence.toNat := Bytes.ofBigEndian_bigEndian_of_lt header.sequence.toNat_lt
  have timestamp : Bytes.ofBigEndian (Bytes.bigEndian 4 header.timestamp.toNat) =
      header.timestamp.toNat := Bytes.ofBigEndian_bigEndian_of_lt header.timestamp.toNat_lt
  have stream : Bytes.ofBigEndian (Bytes.bigEndian 4 header.streamId.toNat) =
      header.streamId.toNat := Bytes.ofBigEndian_bigEndian_of_lt header.streamId.toNat_lt
  have second : (UInt8.ofNat (header.marker.toNat * 128 + header.payloadType.toNat % 128)).toNat =
      header.marker.toNat * 128 + header.payloadType.toNat % 128 := by
    have marker := header.marker.toNat_le
    simp only [UInt8.toNat_ofNat']
    omega
  have marker : decide (128 ≤ header.marker.toNat * 128 + header.payloadType.toNat % 128) =
      header.marker := by
    cases header.marker with
    | false =>
        simp only [Bool.toNat_false, decide_eq_false_iff_not]
        omega
    | true => simp
  have payloadType : (header.marker.toNat * 128 + header.payloadType.toNat % 128) % 128 =
      header.payloadType.toNat % 128 := by omega
  simp only [Bytes.bigEndian, List.nil_append, List.cons_append] at sequence timestamp stream
  simp only [encode, Bytes.bigEndian, List.nil_append, List.cons_append, decode, second, marker,
    payloadType, sequence, timestamp, stream]
  simp [version]

end CarrierHeader

/-- A datagram survives the wire; what is new is the gap that the tracker sees in front of it. -/
theorem SequenceTracker.receive_wire (tracker : SequenceTracker) (datagram : Datagram)
    (payloadType : UInt8) (sequence : UInt16) (streamId : UInt32) :
    tracker.receive (datagram.wire payloadType sequence streamId) =
      (.ok { datagram with discont := tracker.breaksAt sequence }, ⟨some sequence⟩) := by
  rw [receive, Datagram.wire, CarrierHeader.decode_encode]
  rfl

end FrameLink

import FrameLink.Carrier.Datagram
import FrameLink.Event
import FrameLink.Format.Version
import FrameLink.Packet.Flags

/-!
# Packets

One fragment of a frame with its eight bytes of header: a byte with the announcement bit, the
format version and the media flags, a byte for the kind of event, two zero bytes, and the offset
of the fragment in its frame.
-/

namespace FrameLink

/-- The header of a packet. -/
structure PacketHeader where
  /-- Whether the frame starts with an inlined format descriptor. -/
  capsInline : Bool
  version : FormatVersion
  flags : FrameFlags
  /-- The kind of event as it stands on the wire; zero where the frame carries none. -/
  eventType : UInt8
  offset : UInt32
  deriving DecidableEq, Repr

namespace PacketHeader

/-- The number of bytes of a packet header. -/
def size : Nat := 8

/-- The first byte of a header. -/
def flagsByte (header : PacketHeader) : UInt8 :=
  UInt8.ofNat (header.capsInline.toNat * 128 + header.version.val * 16 + header.flags.bits)

/-- The kind of event that a header names. -/
def eventKind (header : PacketHeader) : Except FrameError (Option EventKind) :=
  EventKind.ofByte header.eventType

/-- The bytes of a header. -/
def encode (header : PacketHeader) : Bytes :=
  [header.flagsByte, header.eventType, 0, 0] ++ Bytes.bigEndian 4 header.offset.toNat

/-- Reads a header and what stands behind it. -/
def decode : Bytes → Except FrameError (PacketHeader × Bytes)
  | first :: eventType :: r₁ :: r₂ :: o₁ :: o₂ :: o₃ :: o₄ :: payload =>
      if Bytes.ofBigEndian [r₁, r₂] ≠ 0 then
        .error (.header (.reservedBits (Bytes.ofBigEndian [r₁, r₂])))
      else
        .ok ({
          capsInline := 128 ≤ first.toNat
          version := ⟨first.toNat / 16 % 8, Nat.mod_lt _ (by decide)⟩
          flags := .ofBits first.toNat
          eventType := eventType
          offset := UInt32.ofNat (Bytes.ofBigEndian [o₁, o₂, o₃, o₄]) }, payload)
  | _ => .error (.header .truncated)

@[simp] theorem length_encode (header : PacketHeader) : header.encode.length = size := by
  simp [encode, size]

end PacketHeader

/-- A fragment of a frame. -/
structure Packet where
  header : PacketHeader
  /-- Whether the fragment is the last one of its frame. -/
  marker : Bool
  /-- Whether the transport saw a gap in front of the packet. -/
  discont : Bool
  timestamp : UInt32
  payload : Bytes
  deriving DecidableEq, Repr

namespace Packet

/-- The number of bytes of a packet. -/
def size (packet : Packet) : Nat :=
  PacketHeader.size + packet.payload.length

/-- The datagram that carries a packet. -/
def toDatagram (packet : Packet) : Datagram where
  marker := packet.marker
  timestamp := packet.timestamp
  discont := false
  payload := packet.header.encode ++ packet.payload

/-- The packet that a datagram carries. -/
def ofDatagram (datagram : Datagram) : Except FrameError Packet :=
  match PacketHeader.decode datagram.payload with
  | .error error => .error error
  | .ok (header, payload) =>
      .ok {
        header
        marker := datagram.marker
        discont := datagram.discont
        timestamp := datagram.timestamp
        payload }

end Packet

end FrameLink

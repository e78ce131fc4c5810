import FrameLink.Bytes
import FrameLink.Transport.Error

/-!
# Datagrams and the carrier header

A datagram is what the framing layer hands to a transport: the last-fragment marker, the media
timestamp, whether a gap was seen in front of it, and its bytes. On the wire twelve bytes of
carrier header stand before them.
-/

namespace FrameLink

open FrameLink.Transport (TransportError)

/-- A datagram as the framing layer sees it. -/
structure Datagram where
  marker : Bool
  timestamp : UInt32
  discont : Bool
  payload : Bytes
  deriving DecidableEq, Repr

/-- The header in front of every datagram on the wire. -/
structure CarrierHeader where
  marker : Bool
  payloadType : UInt8
  sequence : UInt16
  timestamp : UInt32
  streamId : UInt32
  deriving DecidableEq, Repr

namespace CarrierHeader

/-- The number of bytes of a carrier header. -/
def size : Nat := 12

/-- The version in the top two bits of the first byte. -/
def version : Nat := 2

/-- The payload type where none is configured. -/
def defaultPayloadType : UInt8 := 96

/-- The rate of the media clock where none is configured. -/
def defaultClockRate : Nat := 90000

/-- The bytes of a header; the payload type loses its top bit to the marker. -/
def encode (header : CarrierHeader) : Bytes :=
  [UInt8.ofNat (version * 64),
    UInt8.ofNat (header.marker.toNat * 128 + header.payloadType.toNat % 128)] ++
    Bytes.bigEndian 2 header.sequence.toNat ++ Bytes.bigEndian 4 header.timestamp.toNat ++
    Bytes.bigEndian 4 header.streamId.toNat

/-- Reads a header and what stands behind it. -/
def decode : Bytes → Except TransportError (CarrierHeader × Bytes)
  | first :: second :: s₁ :: s₂ :: t₁ :: t₂ :: t₃ :: t₄ :: i₁ :: i₂ :: i₃ :: i₄ :: payload =>
      if first.toNat / 64 ≠ version then .error (.unsupportedVersion (first.toNat / 64))
      else
        .ok ({
          marker := 128 ≤ second.toNat
          payloadType := UInt8.ofNat (second.toNat % 128)
          sequence := UInt16.ofNat (Bytes.ofBigEndian [s₁, s₂])
          timestamp := UInt32.ofNat (Bytes.ofBigEndian [t₁, t₂, t₃, t₄])
          streamId := UInt32.ofNat (Bytes.ofBigEndian [i₁, i₂, i₃, i₄]) }, payload)
  | short => .error (.datagramTooShort short.length size)

@[simp] theorem length_encode (header : CarrierHeader) : header.encode.length = size := by
  simp [encode, size]

end CarrierHeader

namespace Datagram

/-- The number of bytes of a datagram on the wire. -/
def wireSize (datagram : Datagram) : Nat :=
  CarrierHeader.size + datagram.payload.length

/-- The bytes of a datagram on the wire, under a sequence number. -/
def wire (datagram : Datagram) (payloadType : UInt8) (sequence : UInt16) (streamId : UInt32) :
    Bytes :=
  CarrierHeader.encode {
    marker := datagram.marker
    payloadType := payloadType
    sequence := sequence
    timestamp := datagram.timestamp
    streamId := streamId } ++ datagram.payload

@[simp] theorem length_wire (datagram : Datagram) (payloadType : UInt8) (sequence : UInt16)
    (streamId : UInt32) :
    (datagram.wire payloadType sequence streamId).length = datagram.wireSize := by
  simp [wire, wireSize]

end Datagram

end FrameLink

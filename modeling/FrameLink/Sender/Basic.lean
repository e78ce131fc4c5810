import FrameLink.Fragment
import FrameLink.Frame
import FrameLink.Packet.Basic

/-!
# The sender

A sender writes each frame as one run of bytes, an announcement of the format in front where one is
due, and cuts the run into packets of at most its MTU. It remembers which format is in force under
which version, and whether the latest change has still to be announced.
-/

namespace FrameLink

open FrameLink.Transport (TransportError)

/-- How a sender is set up: the greatest size of a packet with its header, and the format agreed at
session setup. -/
structure SenderConfig where
  mtu : Nat
  initial : Option FormatDescriptor
  deriving DecidableEq, Repr

/-- The greatest size of a packet where none is configured. -/
def defaultMtu : Nat := 1400

/-- The setup where nothing is configured. -/
def SenderConfig.default : SenderConfig := ⟨defaultMtu, none⟩

/-- The state of a sender. -/
structure Sender where
  mtu : Nat
  /-- A packet has room behind its header. -/
  roomy : PacketHeader.size < mtu
  cache : FormatCache
  /-- The version that outgoing packets carry. -/
  current : FormatVersion
  /-- The version that the rotation handed out last. -/
  assigned : FormatVersion
  /-- The format announced last. -/
  announced : Option FormatDescriptor
  /-- The format that the next frame has to announce. -/
  due : Option FormatDescriptor
  deriving DecidableEq, Repr

namespace Sender

/-! ## Setup -/

/-- A fresh sender. -/
def create (config : SenderConfig) : Except FrameError Sender :=
  if roomy : PacketHeader.size < config.mtu then
    .ok {
      mtu := config.mtu
      roomy := roomy
      cache := .seeded config.initial
      current := .outOfBand
      assigned := .outOfBand
      announced := config.initial
      due := none }
  else .error (.mtuTooSmall config.mtu PacketHeader.size)

/-- The most bytes of a frame that fit one packet. -/
def room (sender : Sender) : Nat :=
  sender.mtu - PacketHeader.size

theorem room_pos (sender : Sender) : 0 < sender.room :=
  Nat.sub_pos_of_lt sender.roomy

/-! ## Formats -/

/-- Changes to a format under the next version of the rotation; the format announced last is no
change. -/
def announce (sender : Sender) (descriptor : FormatDescriptor) : Sender :=
  if sender.announced = some descriptor then sender
  else
    let version := sender.assigned.nextInline
    { sender with
      cache := sender.cache.store version descriptor
      current := version
      assigned := version
      announced := some descriptor
      due := some descriptor }

/-- Takes over the format that a frame names, where it names one. -/
def adopt (sender : Sender) (frame : Frame) : Sender :=
  match frame.descriptor with
  | some descriptor => sender.announce descriptor
  | none => sender

/-- The sender once nothing has to be announced any more. -/
def settled (sender : Sender) : Sender :=
  { sender with due := none }

/-! ## Packets -/

/-- An announcement inside a frame: the format with a zero byte behind it, behind their length. -/
def announcement : Option FormatDescriptor → Bytes
  | none => []
  | some descriptor => Varint.encodeField (descriptor.bytes ++ [0])

/-- The bytes of a frame, the announcement that is due in front. -/
def serialize (sender : Sender) (frame : Frame) : Bytes :=
  announcement sender.due ++ frame.body

/-- The header of every packet of a frame, but for the offset. -/
def header (sender : Sender) (frame : Frame) : PacketHeader where
  capsInline := sender.due.isSome
  version := sender.current
  flags := frame.flags
  eventType := frame.eventType
  offset := 0

/-- Packets for consecutive pieces, the first of which stands at an offset of its frame; the last
one has the marker. -/
def packetsFrom (header : PacketHeader) (timestamp : UInt32) (offset : Nat) :
    List Bytes → List Packet
  | [] => []
  | piece :: rest => {
      header := { header with offset := UInt32.ofNat offset }
      marker := rest.isEmpty
      discont := false
      timestamp := timestamp
      payload := piece } :: packetsFrom header timestamp (offset + piece.length) rest

/-- The greatest number of bytes of a frame, which is the greatest offset. -/
def greatestFrame : Nat := 0xFFFFFFFF

/-- The packets of a frame whose format has been taken over. -/
def packets (sender : Sender) (frame : Frame) : Except FrameError (List Packet) :=
  let bytes := sender.serialize frame
  if greatestFrame < bytes.length then .error (.frameTooLarge bytes.length greatestFrame)
  else
    .ok (packetsFrom (sender.header frame) frame.timestamp 0 (Bytes.pieces sender.room bytes))

/-- The packets of a frame, with the sender after all of them have gone out. -/
def encode (sender : Sender) (frame : Frame) : Except FrameError (List Packet) × Sender :=
  let sender := sender.adopt frame
  match sender.packets frame with
  | .error error => (.error error, sender)
  | .ok packets => (.ok packets, sender.settled)

/-! ## Text -/

/-- A one-line account of a sender. -/
def summary (sender : Sender) : String :=
  s!"Payloader \x7b mtu: {sender.mtu}, current_version: FormatVersion({sender.current.val}), " ++
    s!"pending_caps: {sender.due.isSome} \x7d"

end Sender

end FrameLink

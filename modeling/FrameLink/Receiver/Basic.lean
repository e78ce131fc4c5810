import FrameLink.Frame
import FrameLink.Packet.Basic
import FrameLink.Receiver.Gathered

/-!
# The receiver

A receiver takes packets in the order of their arrival and gathers fragments until one with the
marker completes a frame. Whatever goes wrong costs the frame that was being gathered; the next
fragment at offset 0 starts afresh.
-/

namespace FrameLink

/-- How a receiver is set up: the format agreed at session setup, and the most bytes of a frame. -/
structure ReceiverConfig where
  initial : Option FormatDescriptor
  maxFrameSize : Nat
  deriving DecidableEq, Repr

/-- The most bytes of a frame where nothing is configured. -/
def defaultMaxFrameSize : Nat := 16 * 1024 * 1024

/-- The setup where nothing is configured. -/
def ReceiverConfig.default : ReceiverConfig := ⟨none, defaultMaxFrameSize⟩

/-- The state of a receiver. -/
structure Receiver where
  config : ReceiverConfig
  /-- The bytes of the frame that is being gathered. -/
  pending : Gathered
  cache : FormatCache
  /-- The version of the format in force. -/
  active : Option FormatVersion
  deriving DecidableEq, Repr

namespace Receiver

/-! ## Setup -/

/-- A fresh receiver. -/
def create (config : ReceiverConfig) : Receiver where
  config := config
  pending := .empty
  cache := .seeded config.initial
  active := config.initial.map fun _ => .outOfBand

/-- Drops the frame that is being gathered. -/
def discard (receiver : Receiver) : Receiver :=
  { receiver with pending := .empty }

/-- Puts the format of session setup, where there is one, under version 0 and in force. -/
def seedSession (receiver : Receiver) : Receiver :=
  match receiver.config.initial with
  | none => receiver
  | some descriptor =>
      { receiver with
        cache := receiver.cache.store .outOfBand descriptor
        active := some .outOfBand }

/-- Forgets the frame that is being gathered and every format, then starts over from the setup. -/
def reset (receiver : Receiver) : Receiver :=
  seedSession { receiver.discard with cache := receiver.cache.clear, active := none }

/-- Nothing of its past is left to a receiver behind a reset. -/
@[simp] theorem reset_eq_create (receiver : Receiver) :
    receiver.reset = create receiver.config := by
  simp only [reset, seedSession, discard, create, FormatCache.clear_eq_empty]
  cases receiver.config.initial with
  | none => rfl
  | some descriptor => rfl

/-- The format in force. -/
def activeDescriptor (receiver : Receiver) : Option FormatDescriptor :=
  receiver.active.bind receiver.cache.lookup

/-! ## Completing a frame -/

/-- A descriptor without the zero byte behind it. -/
def withoutTerminator (field : Bytes) : Bytes :=
  if field.getLast? = some 0 then field.dropLast else field

/-- Splits the announcement at the front of a frame off. -/
def takeDescriptor (bytes : Bytes) : Except DescriptorFault (FormatDescriptor × Bytes) :=
  match Varint.takeField bytes with
  | .error fault => .error (.length fault)
  | .ok (field, rest) =>
      match Utf8.decode (withoutTerminator field) with
      | .error fault => .error (.notUtf8 fault)
      | .ok text => .ok (⟨text⟩, rest)

/-- Reads the event at the front of a frame; whatever stands behind it is passed over. -/
def takeEvent (kind : EventKind) (bytes : Bytes) : Except FrameError Event :=
  match Varint.takeField bytes with
  | .error fault => .error (.malformedEvent (.length fault))
  | .ok (body, _) => Event.ofBody kind body

/-- What a call gives back: a delivery, nothing yet, or an error. -/
abbrev Answer := Except FrameError (Option Delivery)

/-- Delivers what stands behind the announcement of a frame. The announcement may have replaced
another format under the same version. -/
def deliver (receiver : Receiver) (header : PacketHeader) (timestamp : UInt32) (replaced : Bool)
    (bytes : Bytes) : Answer × Receiver :=
  match header.eventKind with
  | .error error => (.error error, receiver)
  | .ok (some kind) => ((takeEvent kind bytes).map fun event => some (.event event), receiver)
  | .ok none =>
      if bytes.isEmpty then (.ok none, receiver)
      else
        match receiver.cache.lookup header.version with
        | none => (.error (.missingFormatVersion header.version.val), receiver)
        | some descriptor =>
            let switched := receiver.active != some header.version
            (.ok (some (.frame {
              payload := bytes
              flags := header.flags
              version := header.version
              descriptor
              formatChanged := switched || replaced
              timestamp })), { receiver with active := some header.version })

/-- Whether a descriptor takes the place of another one. -/
def replaces (previous : Option FormatDescriptor) (descriptor : FormatDescriptor) : Bool :=
  match previous with
  | none => false
  | some previous => previous != descriptor

/-- Reads the bytes of a whole frame under the header and timestamp of its last packet. -/
def complete (receiver : Receiver) (header : PacketHeader) (timestamp : UInt32) (bytes : Bytes) :
    Answer × Receiver :=
  if header.capsInline then
    match takeDescriptor bytes with
    | .error fault => (.error (.malformedDescriptor fault), receiver)
    | .ok (descriptor, rest) =>
        let replaced := replaces (receiver.cache.lookup header.version) descriptor
        deliver { receiver with cache := receiver.cache.store header.version descriptor } header
          timestamp replaced rest
  else deliver receiver header timestamp false bytes

/-! ## Packets -/

/-- The greatest offset that an error can report. -/
def greatestOffset : Nat := 0xFFFFFFFF

/-- Takes a packet in front of which no gap was seen. -/
def gather (receiver : Receiver) (packet : Packet) : Answer × Receiver :=
  if packet.payload.isEmpty then (.ok none, receiver)
  else if packet.header.offset.toNat ≠ receiver.pending.size then
    (.error (.fragmentMismatch (min receiver.pending.size greatestOffset)
      packet.header.offset.toNat), receiver.discard)
  else
    let block := receiver.pending.append packet.payload
    if receiver.config.maxFrameSize < block.size then
      (.error (.frameTooLarge block.size receiver.config.maxFrameSize), receiver.discard)
    else if packet.marker then
      complete receiver.discard packet.header packet.timestamp block.toBytes
    else (.ok none, { receiver with pending := block })

/-- Takes a packet. -/
def accept (receiver : Receiver) (packet : Packet) : Answer × Receiver :=
  (if packet.discont then receiver.discard else receiver).gather packet

/-- Takes a datagram. -/
def acceptDatagram (receiver : Receiver) (datagram : Datagram) : Answer × Receiver :=
  match Packet.ofDatagram datagram with
  | .error error => (.error error, receiver.discard)
  | .ok packet => receiver.accept packet

/-! ## Text -/

/-- A one-line account of a receiver. -/
def summary (receiver : Receiver) : String :=
  let active :=
    match receiver.active with
    | none => "None"
    | some version => s!"Some(FormatVersion({version.val}))"
  s!"Depayloader \x7b pending: {receiver.pending.size}, active: {active}, " ++
    s!"cached_versions: {receiver.cache.size} \x7d"

end Receiver

end FrameLink

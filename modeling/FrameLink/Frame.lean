import FrameLink.Event
import FrameLink.Format.Cache
import FrameLink.Packet.Flags

/-!
# Frames

What goes into a sender, and what comes out of a receiver.
-/

namespace FrameLink

/-- A frame to be sent. Where it carries an event, the event goes out in place of the payload;
where it names no descriptor, the format stays the one last announced. -/
structure Frame where
  payload : Bytes
  descriptor : Option FormatDescriptor
  event : Option Event
  flags : FrameFlags
  timestamp : UInt32
  deriving DecidableEq, Repr

namespace Frame

/-- The frame with nothing in it. -/
def blank : Frame where
  payload := []
  descriptor := none
  event := none
  flags := .none
  timestamp := 0

/-- The bytes that a frame sends besides an announcement. -/
def body (frame : Frame) : Bytes :=
  match frame.event with
  | some event => event.field
  | none => frame.payload

/-- The header byte for the event of a frame. -/
def eventType (frame : Frame) : UInt8 :=
  match frame.event with
  | some event => event.kind.toByte
  | none => 0

end Frame

/-- A frame that was put together again, with the format it came under. -/
structure ReceivedFrame where
  payload : Bytes
  flags : FrameFlags
  version : FormatVersion
  descriptor : FormatDescriptor
  /-- Whether the format in force changed with this frame. -/
  formatChanged : Bool
  timestamp : UInt32
  deriving DecidableEq, Repr

/-- What a receiver delivers. -/
inductive Delivery where
  | frame (frame : ReceivedFrame)
  | event (event : Event)
  deriving DecidableEq, Repr

end FrameLink

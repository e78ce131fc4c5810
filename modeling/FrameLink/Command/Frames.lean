import FrameLink.Command.Failure
import FrameLink.Fragment
import FrameLink.Frame

/-!
# Frames of a send

What the sending command makes of its payload: frames of one size with rising timestamps, then the
event. A descriptor goes with the first of them.
-/

namespace FrameLink.Command

/-- What the sending command makes frames of. -/
structure FramePlan where
  payload : Bytes
  /-- The size of a frame; without one the payload is a single frame. -/
  frameSize : Option Nat
  /-- Whether every frame but the first depends on others. -/
  delta : Bool
  timestampStep : UInt32
  descriptor : Option String
  event : Option Event
  deriving DecidableEq, Repr

/-- Splits text at its first colon. -/
def splitColon? (text : String) : Option (String × String) :=
  let chars := text.toList
  match chars.dropWhile (· != ':') with
  | [] => none
  | _ :: body => some (String.ofList (chars.takeWhile (· != ':')), String.ofList body)

/-- The event that a text stands for: the name of its kind, a colon, and its body. -/
def readEvent (text : String) : Except Failure Event :=
  match splitColon? text with
  | none => .error ⟨.usage, "--event must be KIND:BODY"⟩
  | some (name, body) =>
      match EventKind.ofName name with
      | .error error => .error ⟨.usage, s!"--event: {error.message}"⟩
      | .ok kind => .ok ⟨kind, body⟩

namespace FramePlan

/-- The frame for a piece of the payload with its index. -/
def payloadFrame (plan : FramePlan) (index : Nat) (piece : Bytes) : Frame where
  payload := piece
  descriptor := none
  event := none
  flags := if plan.delta && 0 < index then .delta else .none
  timestamp := plan.timestampStep * UInt32.ofNat index

/-- The frames of pieces of the payload, the first of which has an index. -/
def payloadFrames (plan : FramePlan) : (index : Nat) → List Bytes → List Frame
  | _, [] => []
  | index, piece :: rest => plan.payloadFrame index piece :: plan.payloadFrames (index + 1) rest

/-- The frame of an event. -/
def eventFrame (event : Event) : Frame :=
  { Frame.blank with event := some event }

/-- Gives the first frame a descriptor; where there is no frame, a frame is made for it. -/
def withDescriptor (descriptor : Option String) (frames : List Frame) : List Frame :=
  match descriptor, frames with
  | none, frames => frames
  | some text, [] => [{ Frame.blank with descriptor := some ⟨text⟩ }]
  | some text, first :: rest => { first with descriptor := some ⟨text⟩ } :: rest

/-- The frames of a plan whose frames have a size. -/
def framesOf (plan : FramePlan) (size : Nat) : List Frame :=
  withDescriptor plan.descriptor <|
    plan.payloadFrames 0 (Bytes.pieces size plan.payload) ++
      (plan.event.map eventFrame).toList

/-- The frames of a plan. -/
def frames (plan : FramePlan) : Except Failure (List Frame) :=
  match plan.frameSize with
  | some 0 => .error ⟨.usage, "--frame-size must be greater than zero"⟩
  | some size => .ok (plan.framesOf size)
  | none => .ok (plan.framesOf (max plan.payload.length 1))

end FramePlan

end FrameLink.Command

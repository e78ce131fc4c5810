import FrameLink.Command.Frames
import FrameLink.Command.Session
import FrameLink.Stream.Writer

/-!
# The sending command

A payload becomes frames, the frames become datagrams to one address. Everything that can be wrong
with the arguments shows before the address is opened.
-/

namespace FrameLink.Command

open FrameLink.Transport (Address TransportError UdpLink)

/-! ## Planning -/

/-- The payload that is asked for. -/
def readPayload (world : World) (arguments : SendArguments) : Except Failure Bytes :=
  match arguments.data, arguments.file with
  | some text, _ => .ok (Utf8.encode text)
  | none, some path => (world.fileBytes path).mapError (Failure.ofIo s!"failed reading {path}")
  | none, none => .ok []

/-- What is known before anything goes out: the frames and the setup of the sender. -/
structure SendPlan where
  /-- The number of bytes of the payload. -/
  bytes : Nat
  frames : List Frame
  config : SenderConfig
  deriving DecidableEq, Repr

/-- Prepares a send: the payload first, then the event, the frames and the session. -/
def planSend (world : World) (arguments : SendArguments) : Except Failure SendPlan := do
  let payload ← readPayload world arguments
  let event ←
    match arguments.event with
    | none => .ok none
    | some text => (readEvent text).map some
  let frames ← FramePlan.frames {
    payload
    frameSize := arguments.frameSize
    delta := arguments.delta
    timestampStep := UInt32.ofNat arguments.timestampStep
    descriptor := arguments.descriptor
    event }
  let session ← readSessionText arguments.session
  .ok {
    bytes := payload.length
    frames
    config := { session.senderConfig with mtu := arguments.mtu.getD session.mtu } }

/-! ## Sending -/

/-- Opens the sending end. -/
def connect (world : World) (near far : Address) : Except TransportError UdpLink :=
  match world.bindFault near, world.connectFault near far with
  | some fault, _ => .error (.bind near fault)
  | none, some fault => .error (.connect far fault)
  | none, none => .ok ⟨.create .blocking (some far) .default, ⟨[], world.sendResults, []⟩⟩

/-- Writes frames until one fails; gives the number of frames and of packets that went out. -/
def writeFrames (sender : Sender) (link : UdpLink) (frames packets : Nat) :
    List Frame → Except FrameError (Nat × Nat) × UdpLink
  | [] => (.ok (frames, packets), link)
  | frame :: rest =>
      match sender.write frame link with
      | (.error error, _, link) => (.error error, link)
      | (.ok sent, sender, link) => writeFrames sender link (frames + 1) (packets + sent) rest

/-- Sends the frames of a plan over an open end, and reports what went out. -/
def SendPlan.run (plan : SendPlan) (link : UdpLink) (format : Report.Format) : Outcome :=
  match Sender.create plan.config with
  | .error error => .failed (.ofFrame "invalid configuration" error)
  | .ok sender =>
      match writeFrames sender link 0 0 plan.frames with
      | (.error error, link) => ⟨[], .failed (.ofFrame "send failed" error), link.socket.wire⟩
      | (.ok (frames, packets), link) =>
          let report := Report.sent ⟨frames, packets, plan.bytes, plan.config.mtu⟩ format
          ⟨report, .finished, link.socket.wire⟩

/-- The sending command. -/
def runSend (world : World) (arguments : SendArguments) (format : Report.Format) : Outcome :=
  match planSend world arguments with
  | .error failure => .failed failure
  | .ok plan =>
      match connect world arguments.bind arguments.destination with
      | .error error => .failed (.ofTransport "connect failed" error)
      | .ok link => plan.run link format

end FrameLink.Command

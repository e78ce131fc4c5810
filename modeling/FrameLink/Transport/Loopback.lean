import FrameLink.Carrier.Sequence
import FrameLink.Transport.Endpoint

/-!
# The loopback link

Both ends of a transport in memory. Datagrams pass through the real carrier encoding, so sequence
tracking works as it does on a wire. Losses and failing sends can be asked for.
-/

namespace FrameLink.Transport

/-- A link in memory, with the state of both its ends. -/
structure Loopback where
  /-- The sequence number of the next datagram. -/
  next : UInt16
  /-- The sequence numbers whose datagrams are lost. -/
  lost : List UInt16
  /-- The number of datagrams behind which every send fails, where one is set. -/
  failAfter : Option Nat
  /-- The number of datagrams taken so far, lost ones included. -/
  sent : Nat
  /-- The bytes under way. -/
  queue : List Bytes
  tracker : SequenceTracker
  sinkOpen : Bool
  sourceOpen : Bool
  deriving DecidableEq, Repr

namespace Loopback

/-- A fresh link. -/
def fresh : Loopback where
  next := 0
  lost := []
  failAfter := none
  sent := 0
  queue := []
  tracker := .fresh
  sinkOpen := true
  sourceOpen := true

/-- Loses the datagrams that will carry these sequence numbers. -/
def lose (link : Loopback) (sequences : List UInt16) : Loopback :=
  { link with lost := link.lost ++ sequences }

/-- Makes every send fail behind a number of datagrams. -/
def setFailAfter (link : Loopback) (count : Nat) : Loopback :=
  { link with failAfter := some count }

/-- Whether the next send fails. -/
def isBroken (link : Loopback) : Bool :=
  match link.failAfter with
  | none => false
  | some count => count ≤ link.sent

/-- Takes a datagram at the sending end. -/
def send (datagram : Datagram) (link : Loopback) : Except TransportError Unit × Loopback :=
  if link.isBroken then (.error (.io (.ofKind .brokenPipe)), link)
  else
    let counted := { link with next := link.next + 1, sent := link.sent + 1 }
    if link.lost.contains link.next then (.ok (), counted)
    else if link.sourceOpen then
      let raw := datagram.wire CarrierHeader.defaultPayloadType link.next 0
      (.ok (), { counted with queue := link.queue ++ [raw] })
    else (.error .closed, counted)

/-- Gives a datagram at the receiving end. -/
def receive (link : Loopback) : Except TransportError Datagram × Loopback :=
  match link.queue with
  | [] => (.error (if link.sinkOpen then .io (.ofKind .wouldBlock) else .closed), link)
  | raw :: rest =>
      let (result, tracker) := link.tracker.receive raw
      (result, { link with queue := rest, tracker })

/-- Closes the sending end. -/
def closeSink (link : Loopback) : Loopback :=
  { link with sinkOpen := false }

/-- Closes the receiving end. -/
def closeSource (link : Loopback) : Loopback :=
  { link with sourceOpen := false }

instance : DatagramSink Loopback where
  send := send

instance : DatagramSource Loopback where
  receive := receive
  backlog link := link.queue.length
  backlog_receive := by
    intro link used
    cases queued : link.queue with
    | nil =>
        simp only [receive, queued] at used
        split at used <;> simp [consumes, TransportError.isMalformed] at used
    | cons raw rest => simp [receive, queued]

end Loopback

end FrameLink.Transport

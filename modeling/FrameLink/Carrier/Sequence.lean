import FrameLink.Carrier.Datagram

/-!
# Sequence tracking

A receiving end remembers the last sequence number and calls every number but the next one a
discontinuity. Numbers wrap at 2^16.
-/

namespace FrameLink

open FrameLink.Transport (TransportError)

/-- The last sequence number that was seen. -/
structure SequenceTracker where
  last : Option UInt16
  deriving DecidableEq, Repr

namespace SequenceTracker

/-- The tracker that has seen nothing. -/
def fresh : SequenceTracker := ⟨none⟩

/-- Whether a number breaks the sequence; the first one always does. -/
def breaksAt (tracker : SequenceTracker) (sequence : UInt16) : Bool :=
  match tracker.last with
  | none => true
  | some last => last + 1 != sequence

/-- Notes a number, and tells whether it breaks the sequence. -/
def observe (tracker : SequenceTracker) (sequence : UInt16) : Bool × SequenceTracker :=
  (tracker.breaksAt sequence, ⟨some sequence⟩)

/-- Reads a datagram off the wire. Bytes that are no datagram leave the tracker as it was. -/
def receive (tracker : SequenceTracker) (raw : Bytes) :
    Except TransportError Datagram × SequenceTracker :=
  match CarrierHeader.decode raw with
  | .error error => (.error error, tracker)
  | .ok (header, payload) =>
      let (discont, tracker) := tracker.observe header.sequence
      (.ok { marker := header.marker, timestamp := header.timestamp, discont, payload }, tracker)

end SequenceTracker

end FrameLink

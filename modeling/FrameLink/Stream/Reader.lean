import FrameLink.Receiver.Basic
import FrameLink.Transport.Endpoint

/-!
# Reading frames from a transport

A reader pulls datagrams until its receiver delivers something. Errors that cost a single frame
are counted and passed over; what a caller sees is a frame, an event, or a transport that failed.
-/

namespace FrameLink

open FrameLink.Transport (DatagramSource TransportError)

/-- What a reader has counted. -/
structure Counters where
  /-- Datagrams received. -/
  packets : Nat
  /-- Frames delivered. -/
  frames : Nat
  /-- Events delivered. -/
  events : Nat
  /-- Gaps in the sequence, that in front of the first datagram aside. -/
  discontinuities : Nat
  fragmentMismatches : Nat
  missingVersions : Nat
  /-- Datagrams or frames that could not be read. -/
  malformed : Nat
  oversized : Nat
  deriving DecidableEq, Repr

namespace Counters

/-- Nothing counted yet. -/
def zero : Counters := ⟨0, 0, 0, 0, 0, 0, 0, 0⟩

/-- The frames and datagrams that were lost to errors. -/
def dropped (counters : Counters) : Nat :=
  counters.fragmentMismatches + counters.missingVersions + counters.malformed +
    counters.oversized

/-- Counts a datagram. -/
def arrived (counters : Counters) (datagram : Datagram) : Counters :=
  let gap := datagram.discont && 0 < counters.packets
  { counters with
    packets := counters.packets + 1
    discontinuities := counters.discontinuities + gap.toNat }

/-- Counts a datagram that the transport could not read. -/
def unreadable (counters : Counters) : Counters :=
  { counters with malformed := counters.malformed + 1 }

/-- Counts an error of reassembly. -/
def record (counters : Counters) : FrameError → Counters
  | .fragmentMismatch _ _ =>
      { counters with fragmentMismatches := counters.fragmentMismatches + 1 }
  | .missingFormatVersion _ => { counters with missingVersions := counters.missingVersions + 1 }
  | .frameTooLarge _ _ => { counters with oversized := counters.oversized + 1 }
  | _ => counters.unreadable

/-- Counts a delivery. -/
def delivered (counters : Counters) : Delivery → Counters
  | .frame _ => { counters with frames := counters.frames + 1 }
  | .event _ => { counters with events := counters.events + 1 }

end Counters

/-- The state of a reader. -/
structure Reader where
  receiver : Receiver
  counters : Counters
  deriving DecidableEq, Repr

namespace Reader

/-- A fresh reader. -/
def create (config : ReceiverConfig) : Reader :=
  ⟨.create config, .zero⟩

/-- Forgets everything but the setup. -/
def reset (reader : Reader) : Reader :=
  ⟨reader.receiver.reset, .zero⟩

/-- Takes one result of a source. It either ends the read or leaves nothing to tell. -/
def take (reader : Reader) :
    Except TransportError Datagram → Option (Except FrameError Delivery) × Reader
  | .error error =>
      if error.isMalformed then (none, ⟨reader.receiver.discard, reader.counters.unreadable⟩)
      else (some (.error (.transport error)), reader)
  | .ok datagram =>
      let counters := reader.counters.arrived datagram
      match reader.receiver.acceptDatagram datagram with
      | (.ok (some delivery), receiver) =>
          (some (.ok delivery), ⟨receiver, counters.delivered delivery⟩)
      | (.ok none, receiver) => (none, ⟨receiver, counters⟩)
      | (.error error, receiver) =>
          if error.isRecoverable then (none, ⟨receiver, counters.record error⟩)
          else (some (.error error), ⟨receiver, counters⟩)

/-- A result after which the read goes on has used something up. -/
theorem consumes_of_take {reader after : Reader} {result : Except TransportError Datagram}
    (goesOn : reader.take result = (none, after)) : Transport.consumes result = true := by
  cases result with
  | ok datagram => rfl
  | error error =>
      simp only [take] at goesOn
      split at goesOn
      next malformed => simpa [Transport.consumes] using malformed
      next => simp at goesOn

/-- Reads on until a frame, an event or a failing transport. -/
def read {σ : Type} [DatagramSource σ] (reader : Reader) (source : σ) :
    Except FrameError Delivery × Reader × σ :=
  match _ : reader.take (DatagramSource.receive source).1 with
  | (some result, reader) => (result, reader, (DatagramSource.receive source).2)
  | (none, reader) => read reader (DatagramSource.receive source).2
  termination_by DatagramSource.backlog source
  decreasing_by exact DatagramSource.backlog_receive source (consumes_of_take ‹_›)

end Reader

end FrameLink

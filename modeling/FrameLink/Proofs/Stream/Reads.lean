import FrameLink.Proofs.Link.Inbound
import FrameLink.Proofs.Receiver.Failures
import FrameLink.Stream.Reader

/-!
# Reading until the source fails

Whatever a receiver refuses, it refuses with an error that costs a single frame
(`Receiver.recoverable_acceptDatagram`). A reader passes over such errors, so reading it again and
again brings out the deliveries of its receiver, all of them and in order (`Queued.reads`).
-/

namespace FrameLink

open FrameLink.Receiver (Answer)
open FrameLink.Transport (DatagramSource TransportError)

/-! ## Errors of a receiver -/

variable {α : Type}

/-- An answer that a reader goes on behind. -/
def Recoverable (answer : Except FrameError α) : Prop :=
  ∀ error, answer = .error error → error.isRecoverable = true

namespace Recoverable

theorem ok (value : α) : Recoverable (.ok value) := by
  intro error refused
  cases refused

theorem error {error : FrameError} (recovers : error.isRecoverable = true) :
    Recoverable (.error error : Except FrameError α) := by
  intro other refused
  cases refused
  exact recovers

end Recoverable

namespace Receiver

theorem recoverable_ofEvent {error : FrameError} (event : error.OfEvent) :
    Recoverable (.error error : Answer) := by
  cases event with
  | unknownKind | malformed => exact .error rfl

theorem recoverable_deliver (receiver : Receiver) (header : PacketHeader) (timestamp : UInt32)
    (replaced : Bool) (bytes : Bytes) :
    Recoverable (deliver receiver header timestamp replaced bytes).1 := by
  have delivers := delivers_deliver receiver header timestamp replaced bytes
  generalize deliver receiver header timestamp replaced bytes = outcome at delivers
  cases delivers with
  | unknownKind named => exact recoverable_ofEvent (ofEvent_eventKind named)
  | unreadable _ taken => exact recoverable_ofEvent (ofEvent_takeEvent taken)
  | missing => exact .error rfl
  | event | nothing | frame => exact .ok _

theorem recoverable_complete (receiver : Receiver) (header : PacketHeader) (timestamp : UInt32)
    (bytes : Bytes) : Recoverable (complete receiver header timestamp bytes).1 := by
  rcases complete_cases receiver header timestamp bytes with
    ⟨_, same⟩ | ⟨_, _, same⟩ | ⟨_, _, _, _, same⟩
  · rw [same]
    exact recoverable_deliver _ _ _ _ _
  · rw [same]
    exact .error rfl
  · rw [same]
    exact recoverable_deliver _ _ _ _ _

theorem recoverable_accept (receiver : Receiver) (packet : Packet) :
    Recoverable (receiver.accept packet).1 := by
  have comesTo := receiver.outcome_accept packet
  generalize receiver.accept packet = outcome at comesTo
  cases comesTo with
  | hollow | inner => exact .ok _
  | astray | oversized => exact .error rfl
  | whole => exact recoverable_complete _ _ _ _

/-- Whatever a datagram comes to, it costs no more than the frame it belongs to. -/
theorem recoverable_acceptDatagram (receiver : Receiver) (datagram : Datagram) :
    Recoverable (receiver.acceptDatagram datagram).1 := by
  unfold acceptDatagram
  split
  next error unreadable =>
    unfold Packet.ofDatagram at unreadable
    split at unreadable
    next fault undecoded =>
      cases unreadable
      unfold PacketHeader.decode at undecoded
      split at undecoded
      next =>
        split at undecoded
        next =>
          cases undecoded
          exact .error rfl
        next => cases undecoded
      next =>
        cases undecoded
        exact .error rfl
    next => cases unreadable
  next => exact recoverable_accept _ _

end Receiver

/-- Bytes that are no datagram leave the transport in order. -/
theorem SequenceTracker.isMalformed_of_receive {tracker after : SequenceTracker} {raw : Bytes}
    {error : TransportError} (refused : tracker.receive raw = (.error error, after)) :
    error.isMalformed = true := by
  unfold receive at refused
  split at refused
  next fault undecoded =>
    cases refused
    unfold CarrierHeader.decode at undecoded
    split at undecoded
    next =>
      split at undecoded
      next =>
        cases undecoded
        rfl
      next => cases undecoded
    next =>
      cases undecoded
      rfl
  next => cases refused

/-! ## The source -/

/-- A source that gives what is on a wire in order, and is closed behind it. -/
structure Inlet where
  tracker : SequenceTracker
  queue : List Bytes
  deriving DecidableEq, Repr

namespace Inlet

/-- Gives the next datagram. -/
def receive (inlet : Inlet) : Except TransportError Datagram × Inlet :=
  match inlet.queue with
  | [] => (.error .closed, inlet)
  | raw :: rest => ((inlet.tracker.receive raw).1, ⟨(inlet.tracker.receive raw).2, rest⟩)

instance : DatagramSource Inlet where
  receive := receive
  backlog inlet := inlet.queue.length
  backlog_receive := by
    intro inlet used
    cases queued : inlet.queue with
    | nil =>
        simp only [receive, queued] at used
        cases used
    | cons raw rest => simp [receive, queued]

end Inlet

/-! ## Reads -/

/-- The results of reading a source again and again until it fails. -/
inductive Reads {σ : Type} [DatagramSource σ] : Reader → σ → List Delivery → FrameError → Prop
  | fails {reader : Reader} {source : σ} {error : FrameError}
      (failed : (reader.read source).1 = .error error) : Reads reader source [] error
  | delivers {reader : Reader} {source : σ} {delivery : Delivery} {others : List Delivery}
      {error : FrameError} (delivered : (reader.read source).1 = .ok delivery)
      (rest : Reads (reader.read source).2.1 (reader.read source).2.2 others error) :
      Reads reader source (delivery :: others) error

/-- What comes out of an answer. -/
def delivered? : Answer → Option Delivery
  | .ok delivery => delivery
  | .error _ => none

theorem ok_of_delivered? {answer : Answer} {delivery : Delivery}
    (told : delivered? answer = some delivery) : answer = .ok (some delivery) := by
  cases answer with
  | ok delivered => exact congrArg Except.ok told
  | error error => cases told

/-- What comes out of a list of answers. -/
def deliveries (answers : List Answer) : List Delivery :=
  answers.filterMap delivered?

theorem deliveries_cons (answer : Answer) (rest : List Answer) :
    deliveries (answer :: rest) =
      match delivered? answer with
      | none => deliveries rest
      | some delivery => delivery :: deliveries rest := by
  rw [deliveries, List.filterMap_cons]
  cases delivered? answer with
  | none => rfl
  | some delivery => rfl

theorem deliveries_append (front back : List Answer) :
    deliveries (front ++ back) = deliveries front ++ deliveries back :=
  List.filterMap_append

/-- Counts what a receiver answered to a datagram. -/
def Counters.answered (counters : Counters) : Answer → Counters
  | .ok none => counters
  | .ok (some delivery) => counters.delivered delivery
  | .error error => counters.record error

namespace Reader

variable {σ : Type} [DatagramSource σ] {reader after : Reader} {source : σ}

theorem read_of_ends {result : Except FrameError Delivery}
    (ends : reader.take (DatagramSource.receive source).1 = (some result, after)) :
    reader.read source = (result, after, (DatagramSource.receive source).2) := by
  rw [read]
  split
  next other ended =>
    rw [ends] at ended
    cases ended
    rfl
  next goesOn =>
    rw [ends] at goesOn
    cases goesOn

theorem read_of_goesOn (goesOn : reader.take (DatagramSource.receive source).1 = (none, after)) :
    reader.read source = after.read (DatagramSource.receive source).2 := by
  rw [read]
  split
  next ended =>
    rw [goesOn] at ended
    cases ended
  next other went =>
    rw [goesOn] at went
    cases went
    rfl

/-- A reader takes a datagram as its receiver does, tells what the receiver delivers, and counts
everything else. -/
theorem take_datagram (reader : Reader) (datagram : Datagram) :
    reader.take (.ok datagram) =
      ((delivered? (reader.receiver.acceptDatagram datagram).1).map .ok,
        ⟨(reader.receiver.acceptDatagram datagram).2,
          (reader.counters.arrived datagram).answered
            (reader.receiver.acceptDatagram datagram).1⟩) := by
  have recovers := Receiver.recoverable_acceptDatagram reader.receiver datagram
  cases accepted : reader.receiver.acceptDatagram datagram with
  | mk answer receiver =>
      rw [accepted] at recovers
      simp only [take, accepted]
      cases answer with
      | error error =>
          simp only [if_pos (recovers error rfl)]
          rfl
      | ok delivered =>
          cases delivered with
          | none => rfl
          | some delivery => rfl

/-- A reader goes the way of its receiver, and tells what the receiver delivers. -/
theorem take_receive (reader : Reader) (tracker : SequenceTracker) (raw : Bytes) :
    let taken := (Inbound.mk tracker reader.receiver).take raw
    ∃ counters, (tracker.receive raw).2 = taken.2.tracker ∧
      reader.take (tracker.receive raw).1 =
        ((delivered? taken.1).map .ok, ⟨taken.2.receiver, counters⟩) := by
  cases received : tracker.receive raw with
  | mk result after =>
      simp only [Inbound.take, received]
      cases result with
      | error error =>
          have malformed := SequenceTracker.isMalformed_of_receive received
          refine ⟨reader.counters.unreadable, rfl, ?_⟩
          simp only [Reader.take, if_pos malformed, delivered?, Option.map_none]
      | ok datagram => exact ⟨_, rfl, reader.take_datagram datagram⟩

end Reader

namespace Reads

variable {σ : Type} [DatagramSource σ] {reader after : Reader} {source : σ}
variable {others : List Delivery} {error : FrameError}

/-- A result that tells nothing is passed over. -/
theorem pass (goesOn : reader.take (DatagramSource.receive source).1 = (none, after))
    (rest : Reads after (DatagramSource.receive source).2 others error) :
    Reads reader source others error := by
  have same := Reader.read_of_goesOn goesOn
  cases rest with
  | fails failed =>
      apply fails
      rw [same]
      exact failed
  | delivers delivered rest =>
      rw [← same] at delivered rest
      exact delivers delivered rest

end Reads

/-! ## Queues -/

/-- A source that hands over a queue of bytes, and fails in one way once that is empty. -/
structure Queued {σ : Type} [DatagramSource σ] (make : SequenceTracker → List Bytes → σ)
    (empty : TransportError) : Prop where
  gives : ∀ tracker raw rest, DatagramSource.receive (make tracker (raw :: rest)) =
    ((tracker.receive raw).1, make (tracker.receive raw).2 rest)
  fails : ∀ tracker, DatagramSource.receive (make tracker []) = (.error empty, make tracker [])
  failure : empty.isMalformed = false

theorem queued_inlet : Queued Inlet.mk .closed where
  gives := fun _ _ _ => rfl
  fails := fun _ => rfl
  failure := rfl

namespace Queued

variable {σ : Type} [DatagramSource σ] {make : SequenceTracker → List Bytes → σ}
variable {empty : TransportError}

/-- A read of an empty queue fails, and changes nothing. -/
theorem read_nil (queued : Queued make empty) (reader : Reader) (tracker : SequenceTracker) :
    reader.read (make tracker []) = (.error (.transport empty), reader, make tracker []) := by
  have ends : reader.take (DatagramSource.receive (make tracker [])).1 =
      (some (.error (.transport empty)), reader) := by
    rw [queued.fails, Reader.take, queued.failure, if_neg Bool.false_ne_true]
  rw [Reader.read_of_ends ends, queued.fails]

/-- A reader takes the bytes in front as its receiver takes them. -/
theorem take_cons (queued : Queued make empty) (reader : Reader) (tracker : SequenceTracker)
    (raw : Bytes) (rest : List Bytes) :
    let taken := (Inbound.mk tracker reader.receiver).take raw
    ∃ counters,
      reader.take (DatagramSource.receive (make tracker (raw :: rest))).1 =
        ((delivered? taken.1).map .ok, ⟨taken.2.receiver, counters⟩) ∧
      (DatagramSource.receive (make tracker (raw :: rest))).2 = make taken.2.tracker rest := by
  obtain ⟨counters, behind, taken⟩ := reader.take_receive tracker raw
  refine ⟨counters, ?_, ?_⟩
  · rw [queued.gives]
    exact taken
  · rw [queued.gives, behind]

/-- Reading brings out the deliveries of the receiver, all of them and in order. -/
theorem reads (queued : Queued make empty) (reader : Reader) (tracker : SequenceTracker)
    (raws : List Bytes) :
    Reads reader (make tracker raws)
      (deliveries ((Inbound.mk tracker reader.receiver).takeAll raws).1) (.transport empty) := by
  induction raws generalizing reader tracker with
  | nil =>
      apply Reads.fails
      rw [queued.read_nil]
  | cons raw rest ih =>
      obtain ⟨counters, taken, behind⟩ := queued.take_cons reader tracker raw rest
      have others := ih ⟨((Inbound.mk tracker reader.receiver).take raw).2.receiver, counters⟩
        ((Inbound.mk tracker reader.receiver).take raw).2.tracker
      rw [Inbound.takeAll, deliveries_cons]
      cases told : delivered? ((Inbound.mk tracker reader.receiver).take raw).1 with
      | none =>
          rw [told] at taken
          apply Reads.pass taken
          rw [behind]
          exact others
      | some delivery =>
          rw [told] at taken
          have result := Reader.read_of_ends taken
          apply Reads.delivers (congrArg Prod.fst result)
          rw [result, behind]
          exact others

/-- One read brings out the first of the deliveries, or fails where there is none; the receiver
ends up where it would have ended up without the read. -/
theorem read (queued : Queued make empty) (reader : Reader) (tracker : SequenceTracker)
    (raws : List Bytes) :
    ∃ result after behind rest,
      reader.read (make tracker raws) = (result, after, make behind rest) ∧
        ((Inbound.mk behind after.receiver).takeAll rest).2 =
          ((Inbound.mk tracker reader.receiver).takeAll raws).2 ∧
        ((∃ delivery, result = .ok delivery ∧
            deliveries ((Inbound.mk tracker reader.receiver).takeAll raws).1 =
              delivery :: deliveries ((Inbound.mk behind after.receiver).takeAll rest).1) ∨
          result = .error (.transport empty) ∧ rest = [] ∧
            deliveries ((Inbound.mk tracker reader.receiver).takeAll raws).1 = []) := by
  induction raws generalizing reader tracker with
  | nil =>
      rw [queued.read_nil]
      exact ⟨_, reader, tracker, [], rfl, rfl, .inr ⟨rfl, rfl, rfl⟩⟩
  | cons raw rest ih =>
      obtain ⟨counters, taken, behind⟩ := queued.take_cons reader tracker raw rest
      rw [Inbound.takeAll, deliveries_cons]
      cases told : delivered? ((Inbound.mk tracker reader.receiver).take raw).1 with
      | none =>
          rw [told] at taken
          rw [Reader.read_of_goesOn taken, behind]
          exact ih _ _
      | some delivery =>
          rw [told] at taken
          rw [Reader.read_of_ends taken, behind]
          exact ⟨_, _, _, rest, rfl, rfl, .inl ⟨delivery, rfl, rfl⟩⟩

end Queued

namespace Reads

/-- Reading a queue brings out the deliveries of the receiver, all of them and in order. -/
theorem queue (reader : Reader) (tracker : SequenceTracker) (raws : List Bytes) :
    Reads reader (Inlet.mk tracker raws)
      (deliveries ((Inbound.mk tracker reader.receiver).takeAll raws).1) (.transport .closed) :=
  queued_inlet.reads reader tracker raws

end Reads

end FrameLink

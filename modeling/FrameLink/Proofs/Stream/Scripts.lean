import FrameLink.Proofs.Receiver.Calls
import FrameLink.Proofs.Stream.Reads
import Mathlib.Data.List.Induction

/-!
# Reading a script

A source gives datagrams and errors in some order. A bare receiver that is called with the
datagrams, and is told of a gap for each one that could not be read, delivers what reads bring out
(`Receiver.Yields`), and its answers are what the counters of the reader count (`Reader.Balanced`).
Any other error of the source ends a read and leaves the reader as it was.
-/

namespace FrameLink

open FrameLink.Receiver (Answer Entry)
open FrameLink.Transport (DatagramSource Script TransportError consumes)

/-! ## What a bare receiver does -/

/-- A result of a source. -/
abbrev Receipt := Except TransportError Datagram

/-- Whether a result is a datagram that could not be read. -/
def Receipt.isMalformed : Receipt → Bool
  | .ok _ => false
  | .error error => error.isMalformed

/-- The call that a result comes to: the datagram, or a gap where it could not be read. Any other
error is no business of a receiver. -/
def Receipt.call? : Receipt → Option Receiver.Call
  | .ok datagram => some (.datagram datagram)
  | .error error => if error.isMalformed then some .gap else none

namespace Receiver

/-- The answers of a bare receiver to results, and what becomes of it. -/
def follow (receiver : Receiver) (receipts : List Receipt) : List Answer × Receiver :=
  let run := receiver.callAll (receipts.filterMap Receipt.call?)
  (run.1.map Entry.answer, run.2)

/-- Results of which nothing is told: each uses something up, and none is delivered. -/
def Silent (receiver : Receiver) (receipts : List Receipt) : Prop :=
  (∀ receipt ∈ receipts, consumes receipt = true) ∧ deliveries (receiver.follow receipts).1 = []

/-- What a script comes to, and what is left of it then: results are used up to the first one that
delivers something or shows that the transport fails. A script that is used up is closed. -/
inductive Yields (receiver : Receiver) :
    List Receipt → Except FrameError Delivery → List Receipt → Prop
  | delivers {quiet rest : List Receipt} {datagram : Datagram} {delivery : Delivery}
      (silent : receiver.Silent quiet)
      (delivered : ((receiver.follow quiet).2.acceptDatagram datagram).1 = .ok (some delivery)) :
      Yields receiver (quiet ++ .ok datagram :: rest) (.ok delivery) rest
  | fails {quiet rest : List Receipt} {error : TransportError} (silent : receiver.Silent quiet)
      (failed : error.isMalformed = false) :
      Yields receiver (quiet ++ .error error :: rest) (.error (.transport error)) rest
  | closed {quiet : List Receipt} (silent : receiver.Silent quiet) :
      Yields receiver quiet (.error (.transport .closed)) []

variable {receiver : Receiver}

theorem follow_append (receiver : Receiver) (front back : List Receipt) :
    receiver.follow (front ++ back) =
      ((receiver.follow front).1 ++ ((receiver.follow front).2.follow back).1,
        ((receiver.follow front).2.follow back).2) := by
  simp only [follow, List.filterMap_append, callAll_append, List.map_append]

theorem follow_datagram (receiver : Receiver) (datagram : Datagram) :
    receiver.follow [.ok datagram] =
      ([(receiver.acceptDatagram datagram).1], (receiver.acceptDatagram datagram).2) := rfl

theorem follow_malformed {error : TransportError} (receiver : Receiver)
    (malformed : error.isMalformed = true) :
    receiver.follow [.error error] = ([.ok none], receiver.discard) := by
  have gap : Receipt.call? (.error error) = some .gap := if_pos malformed
  rw [follow, List.filterMap_cons_some gap]
  rfl

theorem follow_failing {error : TransportError} (receiver : Receiver)
    (failed : error.isMalformed = false) : receiver.follow [.error error] = ([], receiver) := by
  have nothing : Receipt.call? (.error error) = none := if_neg (by simp [failed])
  rw [follow, List.filterMap_cons_none nothing]
  rfl

/-- An error that uses nothing up is no call. -/
theorem follow_filter (receiver : Receiver) (receipts : List Receipt) :
    receiver.follow (receipts.filter (consumes ·)) = receiver.follow receipts := by
  have same : (receipts.filter (consumes ·)).filterMap Receipt.call? =
      receipts.filterMap Receipt.call? := by
    rw [List.filterMap_filter]
    congr 1
    funext receipt
    split
    next => rfl
    next idle =>
      cases receipt with
      | ok datagram => exact absurd rfl idle
      | error error => exact (if_neg idle).symm
  rw [follow, follow, same]

theorem Silent.nil (receiver : Receiver) : receiver.Silent [] :=
  ⟨List.forall_mem_nil _, rfl⟩

theorem Silent.cons {receipt : Receipt} {quiet : List Receipt} (used : consumes receipt = true)
    (nothing : deliveries (receiver.follow [receipt]).1 = [])
    (silent : (receiver.follow [receipt]).2.Silent quiet) : receiver.Silent (receipt :: quiet) := by
  constructor
  · exact List.forall_mem_cons.2 ⟨used, silent.1⟩
  · rw [← List.singleton_append, follow_append, deliveries_append, nothing, silent.2]
    rfl

/-- A result of which nothing is told may stand in front. -/
theorem Yields.cons {receipt : Receipt} {receipts rest : List Receipt}
    {result : Except FrameError Delivery} (used : consumes receipt = true)
    (nothing : deliveries (receiver.follow [receipt]).1 = [])
    (yields : (receiver.follow [receipt]).2.Yields receipts result rest) :
    receiver.Yields (receipt :: receipts) result rest := by
  cases yields with
  | @delivers quiet _ datagram delivery silent delivered =>
      rw [← List.cons_append]
      apply Yields.delivers (silent.cons used nothing)
      rw [← List.singleton_append, follow_append]
      exact delivered
  | fails silent failed =>
      rw [← List.cons_append]
      exact .fails (silent.cons used nothing) failed
  | closed silent => exact .closed (silent.cons used nothing)

/-- Whatever a script comes to, some of it was used, unless nothing was left. -/
theorem Yields.length_le {receipts rest : List Receipt} {result : Except FrameError Delivery}
    (yields : receiver.Yields receipts result rest) : rest.length ≤ receipts.length - 1 := by
  cases yields with
  | delivers => simp
  | fails => simp
  | closed => exact Nat.zero_le _

/-- A read fails with an error of the transport alone, and with none that a receiver can meet. -/
theorem Yields.failure {receipts rest : List Receipt} {error : FrameError}
    (yields : receiver.Yields receipts (.error error) rest) :
    ∃ fault, error = .transport fault ∧ fault.isMalformed = false := by
  cases yields with
  | fails silent failed => exact ⟨_, rfl, failed⟩
  | closed silent => exact ⟨_, rfl, rfl⟩

end Receiver

/-! ## What a reader counts -/

/-- The kinds of losses. -/
inductive Loss where
  | mismatched
  | unannounced
  | oversized
  | unreadable
  deriving DecidableEq, Repr

/-- The kind of loss that an error of reassembly is. -/
def FrameError.loss : FrameError → Loss
  | .fragmentMismatch _ _ => .mismatched
  | .missingFormatVersion _ => .unannounced
  | .frameTooLarge _ _ => .oversized
  | _ => .unreadable

/-- Whether a delivery is a frame. -/
def Delivery.isFrame : Delivery → Bool
  | .frame _ => true
  | .event _ => false

/-- The errors among answers. -/
def refusals (answers : List Answer) : List FrameError :=
  answers.filterMap fun
    | .ok _ => none
    | .error error => some error

/-- The datagrams among results. -/
def datagrams (receipts : List Receipt) : List Datagram :=
  receipts.filterMap Except.toOption

/-- The losses of a receiver with these answers to results: the errors of reassembly, and the
datagrams that could not be read. -/
def losses (answers : List Answer) (receipts : List Receipt) : List Loss :=
  (refusals answers).map FrameError.loss ++
    (receipts.filter Receipt.isMalformed).map fun _ => .unreadable

namespace Counters

/-- The counter of a kind of losses. -/
def lost (counters : Counters) : Loss → Nat
  | .mismatched => counters.fragmentMismatches
  | .unannounced => counters.missingVersions
  | .oversized => counters.oversized
  | .unreadable => counters.malformed

/-- An error of reassembly is counted as a loss, and as nothing else. -/
theorem record_keeps (counters : Counters) (error : FrameError) :
    (counters.record error).packets = counters.packets ∧
      (counters.record error).frames = counters.frames ∧
      (counters.record error).events = counters.events ∧
      (counters.record error).discontinuities = counters.discontinuities := by
  cases error <;> exact ⟨rfl, rfl, rfl, rfl⟩

theorem lost_record (counters : Counters) (error : FrameError) (kind : Loss) :
    (counters.record error).lost kind = counters.lost kind + [error.loss].count kind := by
  cases error <;> cases kind <;> rfl

theorem lost_unreadable (counters : Counters) (kind : Loss) :
    counters.unreadable.lost kind = counters.lost kind + [Loss.unreadable].count kind := by
  cases kind <;> rfl

theorem lost_arrived (counters : Counters) (datagram : Datagram) (kind : Loss) :
    (counters.arrived datagram).lost kind = counters.lost kind := by
  cases kind <;> rfl

theorem lost_delivered (counters : Counters) (delivery : Delivery) (kind : Loss) :
    (counters.delivered delivery).lost kind = counters.lost kind := by
  cases delivery <;> cases kind <;> rfl

/-- An answer is counted as what it is: nothing, a frame, an event or a loss. -/
theorem answered_counts (counters : Counters) (answer : Answer) :
    (counters.answered answer).packets = counters.packets ∧
      (counters.answered answer).discontinuities = counters.discontinuities ∧
      (counters.answered answer).frames =
        counters.frames + (deliveries [answer]).countP Delivery.isFrame ∧
      (counters.answered answer).events =
        counters.events + (deliveries [answer]).countP (!Delivery.isFrame ·) ∧
      ∀ kind, (counters.answered answer).lost kind =
        counters.lost kind + ((refusals [answer]).map FrameError.loss).count kind := by
  cases answer with
  | error error =>
      obtain ⟨packets, frames, events, gaps⟩ := counters.record_keeps error
      exact ⟨packets, gaps, frames, events, counters.lost_record error⟩
  | ok delivered =>
      cases delivered with
      | none => exact ⟨rfl, rfl, rfl, rfl, fun _ => rfl⟩
      | some delivery =>
          cases delivery with
          | frame frame => exact ⟨rfl, rfl, rfl, rfl, counters.lost_delivered (.frame frame)⟩
          | event event => exact ⟨rfl, rfl, rfl, rfl, counters.lost_delivered (.event event)⟩

/-- The losses are those of all kinds together. -/
theorem dropped_eq_length {counters : Counters} {losses : List Loss}
    (lost : ∀ kind, counters.lost kind = losses.count kind) :
    counters.dropped = losses.length := by
  have kinds : losses.count .mismatched + losses.count .unannounced + losses.count .unreadable +
      losses.count .oversized = losses.length := by
    clear lost
    induction losses with
    | nil => rfl
    | cons loss rest ih =>
        cases loss <;> simp <;> omega
  rw [← kinds, ← lost, ← lost, ← lost, ← lost]
  rfl

end Counters

namespace Reader

/-- A reader that has used these results has gone the way of its bare receiver, and has counted what
became of them. -/
structure Balanced (start : Receiver) (used : List Receipt) (reader : Reader) : Prop where
  receiver : reader.receiver = (start.follow used).2
  packets : reader.counters.packets = (datagrams used).length
  frames : reader.counters.frames =
    (deliveries (start.follow used).1).countP Delivery.isFrame
  events : reader.counters.events =
    (deliveries (start.follow used).1).countP (!Delivery.isFrame ·)
  /-- The gap in front of the first datagram is not counted. -/
  discontinuities : reader.counters.discontinuities =
    ((datagrams used).drop 1).countP Datagram.discont
  /-- Every loss is counted in the counter of its kind, and in no other. -/
  lost : ∀ kind, reader.counters.lost kind = (losses (start.follow used).1 used).count kind
  dropped : reader.counters.dropped =
    (refusals (start.follow used).1).length + used.countP Receipt.isMalformed

theorem balanced_nil (start : Receiver) : Balanced start [] ⟨start, .zero⟩ where
  receiver := rfl
  packets := rfl
  frames := rfl
  events := rfl
  discontinuities := rfl
  lost kind := by cases kind <;> rfl
  dropped := rfl

/-- What one more result adds to the counts. -/
theorem Balanced.add {start : Receiver} {used : List Receipt} {reader : Reader}
    (balanced : reader.Balanced start used) {receipt : Receipt} {answers : List Answer}
    {after : Receiver} {counters : Counters}
    (followed : reader.receiver.follow [receipt] = (answers, after))
    (packets : counters.packets = reader.counters.packets + (datagrams [receipt]).length)
    (frames : counters.frames =
      reader.counters.frames + (deliveries answers).countP Delivery.isFrame)
    (events : counters.events =
      reader.counters.events + (deliveries answers).countP (!Delivery.isFrame ·))
    (discontinuities : counters.discontinuities = reader.counters.discontinuities +
      if reader.counters.packets = 0 then 0 else (datagrams [receipt]).countP Datagram.discont)
    (lost : ∀ kind,
      counters.lost kind = reader.counters.lost kind + (losses answers [receipt]).count kind) :
    Balanced start (used ++ [receipt]) ⟨after, counters⟩ := by
  have grown : start.follow (used ++ [receipt]) = ((start.follow used).1 ++ answers, after) := by
    rw [Receiver.follow_append, ← balanced.receiver, followed]
  have arrived : datagrams (used ++ [receipt]) = datagrams used ++ datagrams [receipt] :=
    List.filterMap_append
  have counted : ∀ kind, counters.lost kind =
      (losses (start.follow (used ++ [receipt])).1 (used ++ [receipt])).count kind := by
    intro kind
    rw [lost, balanced.lost, grown]
    simp only [losses, refusals, List.filterMap_append, List.map_append, List.filter_append,
      List.count_append]
    omega
  constructor
  · rw [grown]
  · rw [packets, balanced.packets, arrived, List.length_append]
  · rw [frames, balanced.frames, grown, deliveries_append, List.countP_append]
  · rw [events, balanced.events, grown, deliveries_append, List.countP_append]
  · rw [discontinuities, balanced.discontinuities, balanced.packets, arrived]
    cases datagrams used with
    | nil =>
        cases receipt with
        | ok datagram => rfl
        | error error => rfl
    | cons first rest =>
        rw [if_neg (by simp), List.cons_append, List.drop_succ_cons, List.drop_succ_cons,
          List.drop_zero, List.drop_zero, List.countP_append]
  · exact counted
  · rw [Counters.dropped_eq_length counted, losses, List.length_append, List.length_map,
      List.length_map, ← List.countP_eq_length_filter]

/-- One more result keeps the balance. -/
theorem Balanced.take {start : Receiver} {used : List Receipt} {reader : Reader}
    (balanced : reader.Balanced start used) (receipt : Receipt) :
    (reader.take receipt).2.Balanced start (used ++ [receipt]) := by
  cases receipt with
  | error error =>
      rw [Reader.take]
      cases malformed : error.isMalformed with
      | true =>
          rw [if_pos rfl]
          apply balanced.add (Receiver.follow_malformed _ malformed)
          · rfl
          · rfl
          · rfl
          · simp [datagrams, Except.toOption, Counters.unreadable]
          · intro kind
            rw [Counters.lost_unreadable]
            simp [losses, refusals, Receipt.isMalformed, malformed]
      | false =>
          rw [if_neg Bool.false_ne_true]
          apply balanced.add (Receiver.follow_failing _ malformed)
          · rfl
          · rfl
          · rfl
          · simp [datagrams, Except.toOption]
          · intro kind
            simp [losses, refusals, Receipt.isMalformed, malformed]
  | ok datagram =>
      rw [Reader.take_datagram]
      obtain ⟨packets, gaps, frames, events, lost⟩ :=
        (reader.counters.arrived datagram).answered_counts
          (reader.receiver.acceptDatagram datagram).1
      apply balanced.add (Receiver.follow_datagram _ datagram) packets frames events
      · rw [gaps, Counters.arrived]
        cases reader.counters.packets with
        | zero => simp
        | succ count =>
            cases discont : datagram.discont <;> simp [datagrams, Except.toOption, discont]
      · intro kind
        rw [lost, Counters.lost_arrived]
        simp [losses, Receipt.isMalformed]

/-- Takes results one after the other. -/
def takeAll (reader : Reader) (receipts : List Receipt) : Reader :=
  receipts.foldl (fun reader receipt => (reader.take receipt).2) reader

theorem takeAll_append (reader : Reader) (front back : List Receipt) :
    reader.takeAll (front ++ back) = (reader.takeAll front).takeAll back :=
  List.foldl_append

theorem balanced_takeAll (config : ReceiverConfig) (receipts : List Receipt) :
    ((create config).takeAll receipts).Balanced (.create config) receipts := by
  induction receipts using List.reverseRecOn with
  | nil => exact balanced_nil (.create config)
  | append_singleton receipts receipt ih =>
      rw [takeAll_append]
      exact ih.take receipt

/-- An error that uses nothing up leaves the reader as it was. -/
theorem takeAll_filter (reader : Reader) (receipts : List Receipt) :
    reader.takeAll (receipts.filter (consumes ·)) = reader.takeAll receipts := by
  rw [takeAll, takeAll, List.foldl_filter]
  congr 1
  funext reader receipt
  split
  next => rfl
  next idle =>
    cases receipt with
    | ok datagram => exact absurd rfl idle
    | error error =>
        have failing : ¬error.isMalformed = true := idle
        rw [Reader.take, if_neg failing]

/-! ## Reads -/

/-- One read of a script: the results that it used, those that it left, and what came of it. -/
structure ReadsOff (reader : Reader) (receipts used rest : List Receipt) : Prop where
  split : used ++ rest = receipts
  after : (reader.read (Script.mk receipts)).2 = (reader.takeAll used, ⟨rest⟩)
  yields : reader.receiver.Yields receipts (reader.read (Script.mk receipts)).1 rest
  told : (reader.read (Script.mk receipts)).1.toOption.toList =
    deliveries (reader.receiver.follow used).1

section ReadsOff

variable {reader after : Reader} {receipt : Receipt} {receipts used rest : List Receipt}

/-- A result of which nothing is told is passed over. -/
theorem ReadsOff.cons (goesOn : reader.take receipt = (none, after))
    (moves : after.receiver = (reader.receiver.follow [receipt]).2)
    (nothing : deliveries (reader.receiver.follow [receipt]).1 = [])
    (others : after.ReadsOff receipts used rest) :
    reader.ReadsOff (receipt :: receipts) (receipt :: used) rest := by
  have same : reader.read (Script.mk (receipt :: receipts)) = after.read (Script.mk receipts) :=
    read_of_goesOn goesOn
  constructor
  · rw [List.cons_append, others.split]
  · rw [same, others.after, takeAll, takeAll, List.foldl_cons, goesOn]
  · rw [same]
    apply Receiver.Yields.cons (consumes_of_take goesOn) nothing
    rw [← moves]
    exact others.yields
  · rw [same, others.told, ← List.singleton_append, Receiver.follow_append, deliveries_append,
      nothing, moves]
    rfl

/-- A result that ends the read is the last one that it uses. -/
theorem ReadsOff.ends {result : Except FrameError Delivery}
    (ends : reader.take receipt = (some result, after))
    (yields : reader.receiver.Yields (receipt :: receipts) result receipts)
    (told : result.toOption.toList = deliveries (reader.receiver.follow [receipt]).1) :
    reader.ReadsOff (receipt :: receipts) [receipt] receipts := by
  have ended : reader.read (Script.mk (receipt :: receipts)) =
      (result, after, Script.mk receipts) := read_of_ends ends
  constructor
  · rfl
  · rw [ended, takeAll, List.foldl_cons, ends]
    rfl
  · rw [ended]
    exact yields
  · rw [ended]
    exact told

end ReadsOff

/-- A read of a script uses it up to what it tells. -/
theorem exists_readsOff (reader : Reader) (receipts : List Receipt) :
    ∃ used rest, reader.ReadsOff receipts used rest := by
  induction receipts generalizing reader with
  | nil =>
      have ended : reader.read (Script.mk []) =
          (.error (.transport .closed), reader, Script.mk []) := read_of_ends rfl
      refine ⟨[], [], rfl, ?_, ?_, ?_⟩
      · rw [ended]
        rfl
      · rw [ended]
        exact .closed (.nil reader.receiver)
      · rw [ended]
        rfl
  | cons receipt receipts ih =>
      cases receipt with
      | error error =>
          cases malformed : error.isMalformed with
          | true =>
              have goesOn : reader.take (.error error) =
                  (none, ⟨reader.receiver.discard, reader.counters.unreadable⟩) := by
                rw [Reader.take, if_pos malformed]
              have followed := Receiver.follow_malformed reader.receiver malformed
              obtain ⟨used, rest, others⟩ :=
                ih ⟨reader.receiver.discard, reader.counters.unreadable⟩
              refine ⟨_, rest, .cons goesOn ?_ ?_ others⟩
              · rw [followed]
              · rw [followed]
                rfl
          | false =>
              have ends : reader.take (.error error) =
                  (some (.error (.transport error)), reader) := by
                rw [Reader.take, malformed, if_neg Bool.false_ne_true]
              refine ⟨_, _, .ends ends (.fails (.nil reader.receiver) malformed) ?_⟩
              rw [Receiver.follow_failing reader.receiver malformed]
              rfl
      | ok datagram =>
          have taken := reader.take_datagram datagram
          have followed := Receiver.follow_datagram reader.receiver datagram
          cases told : delivered? (reader.receiver.acceptDatagram datagram).1 with
          | none =>
              rw [told] at taken
              obtain ⟨used, rest, others⟩ := ih _
              refine ⟨_, rest, .cons taken ?_ ?_ others⟩
              · rw [followed]
              · rw [followed, deliveries_cons, told]
                rfl
          | some delivery =>
              rw [told] at taken
              have delivered := ok_of_delivered? told
              refine ⟨_, _, .ends taken (.delivers (.nil reader.receiver) delivered) ?_⟩
              rw [followed, deliveries_cons, told]
              rfl

/-- Reads so many times. -/
def readTimes {σ : Type} [DatagramSource σ] (reader : Reader) (source : σ) :
    Nat → List (Except FrameError Delivery) × Reader × σ
  | 0 => ([], reader, source)
  | count + 1 =>
      let earlier := reader.readTimes source count
      let last := earlier.2.1.read earlier.2.2
      (earlier.1 ++ [last.1], last.2)

/-- Where so many reads of a script lead: the results that they used, and those that they left. -/
structure Reached (config : ReceiverConfig) (receipts : List Receipt) (count : Nat)
    (used rest : List Receipt) : Prop where
  split : used ++ rest = receipts
  stands : ((create config).readTimes (Script.mk receipts) count).2 =
    ((create config).takeAll used, ⟨rest⟩)
  told : ((create config).readTimes (Script.mk receipts) count).1.filterMap Except.toOption =
    deliveries ((Receiver.create config).follow used).1
  failures : ∀ error, .error error ∈ ((create config).readTimes (Script.mk receipts) count).1 →
    ∃ fault, error = .transport fault ∧ fault.isMalformed = false
  left : rest.length ≤ receipts.length - count

/-- One more read leads on. -/
theorem Reached.read {config : ReceiverConfig} {receipts used rest others behind : List Receipt}
    {count : Nat} (reached : Reached config receipts count used rest)
    (last : ((create config).takeAll used).ReadsOff rest others behind) :
    Reached config receipts (count + 1) (used ++ others) behind := by
  have step : (create config).readTimes (Script.mk receipts) (count + 1) =
      (((create config).readTimes (Script.mk receipts) count).1 ++
          [(((create config).takeAll used).read (Script.mk rest)).1],
        (((create config).takeAll used).read (Script.mk rest)).2) := by
    rw [readTimes, reached.stands]
  constructor
  · rw [List.append_assoc, last.split, reached.split]
  · rw [step, last.after, takeAll_append]
  · have one : [(((create config).takeAll used).read (Script.mk rest)).1].filterMap
        Except.toOption = deliveries (((create config).takeAll used).receiver.follow others).1 := by
      rw [← last.told]
      cases (((create config).takeAll used).read (Script.mk rest)).1 <;> rfl
    rw [step, List.filterMap_append, reached.told, one, (balanced_takeAll config used).receiver,
      Receiver.follow_append, deliveries_append]
  · intro error member
    rw [step] at member
    rcases List.mem_append.1 member with earlier | new
    · exact reached.failures error earlier
    · have yields := last.yields
      rw [← List.mem_singleton.1 new] at yields
      exact yields.failure
  · have left := reached.left
    have less := last.yields.length_le
    omega

theorem exists_reached (config : ReceiverConfig) (receipts : List Receipt) (count : Nat) :
    ∃ used rest, Reached config receipts count used rest := by
  induction count with
  | zero =>
      refine ⟨[], receipts, rfl, rfl, rfl, ?_, Nat.le_refl _⟩
      intro error member
      cases member
  | succ count ih =>
      obtain ⟨used, rest, reached⟩ := ih
      obtain ⟨others, behind, last⟩ := exists_readsOff ((create config).takeAll used) rest
      exact ⟨used ++ others, behind, reached.read last⟩

/-- As many reads as there are results use all of them up. -/
theorem Reached.rest_eq_nil {config : ReceiverConfig} {receipts used rest : List Receipt}
    {count : Nat} (reached : Reached config receipts count used rest)
    (enough : receipts.length ≤ count) : rest = [] := by
  have left := reached.left
  rw [Nat.sub_eq_zero_of_le enough] at left
  exact List.length_eq_zero_iff.1 (Nat.le_zero.1 left)

theorem reached_of_enough (config : ReceiverConfig) {receipts : List Receipt} {count : Nat}
    (enough : receipts.length ≤ count) : Reached config receipts count receipts [] := by
  obtain ⟨used, rest, reached⟩ := exists_reached config receipts count
  obtain rfl := reached.rest_eq_nil enough
  obtain rfl := (List.append_nil used).symm.trans reached.split
  exact reached

/-- Reading refines what a bare receiver does, and its counters balance. Wherever a script of
datagrams and errors is read to: what was read are the deliveries of a bare receiver that was called
with the part that was used, in order, and the counters are told by its answers; every failure was
one of the transport; the next read uses the script up to and including the result that it returns
for; a reset leaves a fresh reader; and as many reads as there are results use all of them up.
Errors that use nothing up change nothing about what is read and counted in the end, wherever they
stand and however many there are. -/
theorem reads_balanced (config : ReceiverConfig) (receipts : List Receipt) :
    (∀ count,
      let (results, reader, source) := (create config).readTimes (Script.mk receipts) count
      ∃ used rest, source = ⟨rest⟩ ∧ used ++ rest = receipts ∧
        reader.Balanced (.create config) used ∧
        results.filterMap Except.toOption =
          deliveries ((Receiver.create config).follow used).1 ∧
        (∀ error, .error error ∈ results →
          ∃ fault, error = .transport fault ∧ fault.isMalformed = false) ∧
        (∃ behind, (reader.read source).2.2 = ⟨behind⟩ ∧
          reader.receiver.Yields rest (reader.read source).1 behind) ∧
        reader.reset = create config ∧
        (receipts.length ≤ count → rest = [])) ∧
      ∀ others : List Receipt, others.filter (consumes ·) = receipts.filter (consumes ·) →
        ∀ count more, receipts.length ≤ count → others.length ≤ more →
          let run := (create config).readTimes (Script.mk receipts) count
          let other := (create config).readTimes (Script.mk others) more
          run.1.filterMap Except.toOption = other.1.filterMap Except.toOption ∧
            run.2.1 = other.2.1 := by
  constructor
  · intro count
    obtain ⟨used, rest, reached⟩ := exists_reached config receipts count
    obtain ⟨others, behind, next⟩ := exists_readsOff ((create config).takeAll used) rest
    have balanced := balanced_takeAll config used
    have told := reached.told
    have failures := reached.failures
    have stands := reached.stands
    rcases run : (create config).readTimes (Script.mk receipts) count with ⟨results, reader, source⟩
    rw [run] at told failures stands
    cases stands
    refine ⟨used, rest, rfl, reached.split, balanced, told, failures, ⟨behind, ?_, next.yields⟩, ?_,
      reached.rest_eq_nil⟩
    · rw [next.after]
    · rw [reset, balanced.receiver, Receiver.reset_eq_create, Receiver.follow,
        Receiver.config_callAll]
      rfl
  · intro others same count more enough enoughOthers run other
    have reached := reached_of_enough config enough
    have reachedOther := reached_of_enough config enoughOthers
    constructor
    · rw [reached.told, reachedOther.told, ← Receiver.follow_filter, ← same, Receiver.follow_filter]
    · rw [reached.stands, reachedOther.stands, ← takeAll_filter, ← same, takeAll_filter]

/-- A frame in two datagrams, with a timeout between them, behind bytes that are no datagram. The
timeout ends the first read, and the frame comes whole all the same. -/
theorem reads_balanced_interrupted :
    let config : ReceiverConfig := ⟨some ⟨"setup"⟩, 100⟩
    let header : PacketHeader := ⟨false, .outOfBand, .none, 0, 0⟩
    let first := Packet.toDatagram ⟨header, false, false, 7, [1]⟩
    let last := Packet.toDatagram ⟨{ header with offset := 1 }, true, false, 7, [2, 3]⟩
    let quiet : List Receipt := [.error (.datagramTooShort 3 12), .ok first, .ok last]
    let interrupted : List Receipt :=
      [.error (.datagramTooShort 3 12), .ok first, .error (.io (.ofKind .timedOut)), .ok last]
    let run := (create config).readTimes (Script.mk interrupted) 4
    run.1.filterMap Except.toOption =
        [.frame ⟨[1, 2, 3], .none, .outOfBand, ⟨"setup"⟩, false, 7⟩] ∧
      run.2.1.counters.packets = 2 ∧ run.2.1.counters.frames = 1 ∧
      run.2.1.counters.malformed = 1 ∧ run.2.1.counters.dropped = 1 ∧
      run.2.1 = ((create config).readTimes (Script.mk quiet) 3).2.1 := by
  intro config header first last quiet interrupted run
  obtain ⟨points, inserted⟩ := reads_balanced config interrupted
  obtain ⟨used, rest, _, split, balanced, told, _, _, _, done⟩ := points 4
  rw [done (by decide), List.append_nil] at split
  cases split
  refine ⟨told.trans ?_, balanced.packets, balanced.frames.trans ?_,
    (balanced.lost .unreadable).trans ?_, balanced.dropped.trans ?_, ?_⟩
  · decide +kernel
  · decide +kernel
  · decide +kernel
  · decide +kernel
  · exact (inserted quiet rfl 4 3 (by decide) (by decide)).2

end Reader

end FrameLink

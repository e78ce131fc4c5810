import FrameLink.Stream.Writer
import FrameLink.Transport.Loopback
import Mathlib.Data.List.Basic

/-!
# What a loopback link counts

A writer reports how many datagrams of each frame went out, and the link counts those that it took.
The two differ in one place: a send that finds the other end gone fails, but it has been counted
and has used up a number by then. Each such send ends a write, so the counter is what the writes
report, and one more for each of these (`Account.sent_run`).
-/

namespace FrameLink

open FrameLink.Transport (DatagramSink Loopback TransportError)

/-! ## One send -/

namespace Transport.Loopback

/-- A link that has counted one more datagram and used up its number. -/
def counted (link : Loopback) : Loopback :=
  { link with next := link.next + 1, sent := link.sent + 1 }

/-- What comes of a send. Behind the last datagram that may go out it leaves no trace; but one that
fails because the other end is gone has been counted. -/
inductive Sends (link : Loopback) : Except TransportError Unit → Loopback → Prop
  | broken (broken : link.isBroken = true) : Sends link (.error (.io (.ofKind .brokenPipe))) link
  | taken {queue : List Bytes} (whole : link.isBroken = false)
      (swallowed : link.next ∈ link.lost ∨ link.sourceOpen = true) :
      Sends link (.ok ()) { link.counted with queue }
  | closed (whole : link.isBroken = false) (kept : link.next ∉ link.lost)
      (gone : link.sourceOpen = false) : Sends link (.error .closed) link.counted

theorem sends_send (link : Loopback) (datagram : Datagram) :
    Sends link (link.send datagram).1 (link.send datagram).2 := by
  rw [send]
  split
  next broken => exact .broken broken
  next whole =>
    have whole := Bool.eq_false_iff.mpr whole
    split
    next lost => exact .taken whole (.inl (List.contains_iff_mem.mp lost))
    next kept =>
      split
      next opened => exact .taken whole (.inr opened)
      next gone =>
        exact .closed whole (mt List.contains_iff_mem.mpr kept) (Bool.eq_false_iff.mpr gone)

/-- What the other end does. -/
inductive Reading where
  | receive
  | close
  deriving DecidableEq, Repr

/-- The link once the other end has done something. -/
def read (link : Loopback) : Reading → Loopback
  | .receive => link.receive.2
  | .close => link.closeSource

/-- The link once the other end has done several things. -/
def readAll (link : Loopback) (readings : List Reading) : Loopback :=
  readings.foldl read link

/-- The other end has no part in the counting. -/
theorem counters_read (link : Loopback) (reading : Reading) :
    (link.read reading).sent = link.sent ∧ (link.read reading).next = link.next := by
  cases reading with
  | close => exact ⟨rfl, rfl⟩
  | receive =>
      rw [read, receive]
      split
      next => exact ⟨rfl, rfl⟩
      next => exact ⟨rfl, rfl⟩

theorem counters_readAll (link : Loopback) (readings : List Reading) :
    (link.readAll readings).sent = link.sent ∧ (link.readAll readings).next = link.next := by
  induction readings generalizing link with
  | nil => exact ⟨rfl, rfl⟩
  | cons reading readings ih =>
      obtain ⟨sent, next⟩ := ih (link.read reading)
      obtain ⟨sent', next'⟩ := link.counters_read reading
      exact ⟨sent.trans sent', next.trans next'⟩

end Transport.Loopback

open FrameLink.Transport.Loopback (Reading Sends)

/-! ## Sends that are counted apart -/

/-- A link whose successful sends are counted apart, and whose other end may do something in front
of every send. -/
structure Tallied where
  link : Loopback
  accepted : Nat
  /-- What the other end does in front of each of the coming sends. -/
  meanwhile : List (List Reading)
  deriving DecidableEq, Repr

namespace Tallied

/-- The link as the next send finds it. -/
def met (tallied : Tallied) : Loopback :=
  tallied.link.readAll (tallied.meanwhile.headD [])

/-- Sends a datagram. -/
def send (datagram : Datagram) (tallied : Tallied) : Except TransportError Unit × Tallied :=
  match tallied.met.send datagram with
  | (.ok (), link) => (.ok (), ⟨link, tallied.accepted + 1, tallied.meanwhile.tail⟩)
  | (.error failure, link) => (.error failure, ⟨link, tallied.accepted, tallied.meanwhile.tail⟩)

instance : DatagramSink Tallied where
  send := send

end Tallied

/-- So many sends have succeeded, and one more was counted where the last one was cut off. -/
structure Advances (before after : Tallied) (taken : Nat) (cut : Bool) : Prop where
  accepted : after.accepted = before.accepted + taken
  sent : after.link.sent = before.link.sent + taken + cut.toNat
  next : after.link.next = before.link.next + UInt16.ofNat (taken + cut.toNat)

theorem Advances.refl (tallied : Tallied) : Advances tallied tallied 0 false where
  accepted := rfl
  sent := rfl
  next := (UInt16.add_zero _).symm

theorem Advances.succ {before between after : Tallied} {taken : Nat} {cut : Bool}
    (first : Advances before between 1 false) (others : Advances between after taken cut) :
    Advances before after (taken + 1) cut where
  accepted := by rw [others.accepted, first.accepted, Nat.add_assoc, Nat.add_comm 1]
  sent := by
    rw [others.sent, first.sent, Bool.toNat_false]
    omega
  next := by
    rw [others.next, first.next, Bool.toNat_false, UInt16.add_assoc, ← UInt16.ofNat_add]
    congr 2
    omega

/-- A send that succeeds is counted by both, one that finds the other end gone by the link alone,
and any other failure by neither. -/
theorem advances_send (datagram : Datagram) (tallied : Tallied) :
    match tallied.send datagram with
    | (.ok (), after) => Advances tallied after 1 false
    | (.error failure, after) => Advances tallied after 0 (failure = .closed) := by
  obtain ⟨sent, next⟩ := tallied.link.counters_readAll (tallied.meanwhile.headD [])
  have sends := tallied.met.sends_send datagram
  rw [Tallied.send]
  rcases outcome : tallied.met.send datagram with ⟨result, link⟩
  rw [outcome] at sends
  cases sends with
  | broken => exact ⟨rfl, sent, next.trans (UInt16.add_zero _).symm⟩
  | taken => exact ⟨rfl, congrArg (· + 1) sent, congrArg (· + 1) next⟩
  | closed => exact ⟨rfl, congrArg (· + 1) sent, congrArg (· + 1) next⟩

/-- A run of pushes is counted push by push. -/
theorem advances_pushAll (packets : List Packet) (tallied : Tallied) :
    Advances tallied (pushAll pushTo packets tallied).2 (pushAll pushTo packets tallied).1.sent
      ((pushAll pushTo packets tallied).1.failure = some .closed) := by
  induction packets generalizing tallied with
  | nil => exact .refl tallied
  | cons packet rest ih =>
      have first := advances_send packet.toDatagram tallied
      have same : pushTo packet tallied = tallied.send packet.toDatagram := rfl
      rw [pushAll, same]
      rcases outcome : tallied.send packet.toDatagram with ⟨failure | _, after⟩
      · rw [outcome] at first
        simpa using first
      · rw [outcome] at first
        exact first.succ (ih after)

/-! ## Runs of writes -/

/-- How many datagrams a write reports. -/
def reported : Except FrameError Nat → Nat
  | .ok count => count
  | .error (.pushFailed count _) => count
  | .error _ => 0

/-- How many datagrams several writes report. -/
def total (results : List (Except FrameError Nat)) : Nat :=
  results.foldl (fun sum result => sum + reported result) 0

theorem total_concat (results : List (Except FrameError Nat)) (result : Except FrameError Nat) :
    total (results ++ [result]) = total results + reported result := by
  rw [total, List.foldl_append]
  rfl

/-- Whether a write found the other end gone. -/
def cutOff : Except FrameError Nat → Bool
  | .error (.pushFailed _ failure) => failure = .closed
  | _ => false

theorem advances_write (sender : Sender) (frame : Frame) (tallied : Tallied) :
    Advances tallied (sender.write frame tallied).2.2 (reported (sender.write frame tallied).1)
      (cutOff (sender.write frame tallied).1) := by
  rw [Sender.write, Sender.send, Sender.packets]
  split
  next error refused =>
    split at refused
    next => cases refused; exact .refl tallied
    next => cases refused
  next packets _ =>
    have advances := advances_pushAll packets tallied
    rcases pushed : pushAll pushTo packets tallied with ⟨⟨sent, _ | failure⟩, after⟩
    · rw [pushed] at advances
      exact advances
    · rw [pushed] at advances
      simpa [cutOff, reported] using advances

/-- A writer with its link, and what its writes gave. -/
structure Account where
  sender : Sender
  sink : Tallied
  results : List (Except FrameError Nat)

namespace Account

/-- A call to the writer, or to one of the ends of its link. -/
inductive Call where
  | write (frame : Frame)
  | announce (descriptor : FormatDescriptor)
  | lose (sequences : List UInt16)
  | failAfter (count : Nat)
  | reading (reading : Reading)
  deriving DecidableEq, Repr

/-- A writer over a fresh link. -/
def start (sender : Sender) (meanwhile : List (List Reading)) : Account :=
  ⟨sender, ⟨.fresh, 0, meanwhile⟩, []⟩

/-- Does something to the link between two writes. -/
def onLink (account : Account) (change : Loopback → Loopback) : Account :=
  { account with sink := { account.sink with link := change account.sink.link } }

/-- Makes a call. -/
def perform (account : Account) : Call → Account
  | .write frame =>
      let written := account.sender.write frame account.sink
      ⟨written.2.1, written.2.2, account.results ++ [written.1]⟩
  | .announce descriptor => { account with sender := account.sender.announce descriptor }
  | .lose sequences => account.onLink (·.lose sequences)
  | .failAfter count => account.onLink (·.setFailAfter count)
  | .reading reading => account.onLink (·.read reading)

/-- Makes calls in order. -/
def run (account : Account) (calls : List Call) : Account :=
  calls.foldl perform account

/-- The counter of the link is what the writes report, and one for each that found the other end
gone. -/
structure Balanced (account : Account) : Prop where
  accepted : account.sink.accepted = total account.results
  sent : account.sink.link.sent = total account.results + account.results.countP cutOff
  next : account.sink.link.next = UInt16.ofNat account.sink.link.sent

theorem balanced_start (sender : Sender) (meanwhile : List (List Reading)) :
    (start sender meanwhile).Balanced := ⟨rfl, rfl, rfl⟩

section

variable {account : Account}

/-- The counters of a link keep in step with what a write reports. -/
theorem Balanced.concat (balanced : account.Balanced) {sender : Sender} {sink : Tallied}
    {result : Except FrameError Nat}
    (advances : Advances account.sink sink (reported result) (cutOff result)) :
    Balanced ⟨sender, sink, account.results ++ [result]⟩ where
  accepted := by rw [advances.accepted, balanced.accepted, total_concat]
  sent := by
    have last : [result].countP cutOff = (cutOff result).toNat := by
      cases cut : cutOff result <;> simp [cut]
    rw [advances.sent, balanced.sent, total_concat, List.countP_append, last]
    omega
  next := by
    rw [advances.next, balanced.next, advances.sent, ← UInt16.ofNat_add, Nat.add_assoc]

theorem Balanced.reading (balanced : account.Balanced) (reading : Reading) :
    (account.onLink (·.read reading)).Balanced := by
  obtain ⟨sent, next⟩ := account.sink.link.counters_read reading
  constructor
  case accepted => exact balanced.accepted
  case sent => exact sent.trans balanced.sent
  case next => rw [Account.onLink, next, sent, balanced.next]

theorem Balanced.perform (balanced : account.Balanced) (call : Call) :
    (account.perform call).Balanced := by
  cases call with
  | write frame => exact balanced.concat (advances_write account.sender frame account.sink)
  | announce descriptor => exact ⟨balanced.accepted, balanced.sent, balanced.next⟩
  | lose sequences => exact ⟨balanced.accepted, balanced.sent, balanced.next⟩
  | failAfter count => exact ⟨balanced.accepted, balanced.sent, balanced.next⟩
  | reading reading => exact balanced.reading reading

theorem Balanced.run (balanced : account.Balanced) (calls : List Call) :
    (account.run calls).Balanced := by
  induction calls generalizing account with
  | nil => exact balanced
  | cons call calls ih => exact ih (balanced.perform call)

end

/-- The counter of a link is what the writes over it report, which is the number of sends that
succeeded, and one more for every write that found the other end gone; and the next number goes
along with it. For a send that fails because the other end is gone is counted and uses up its
number, although a send that fails otherwise leaves no trace. So the counter is what the writes
report exactly if no write found the other end gone. -/
theorem sent_run (sender : Sender) (meanwhile : List (List Reading)) (calls : List Call) :
    let after := (start sender meanwhile).run calls
    (∀ link datagram, Sends link (link.send datagram).1 (link.send datagram).2) ∧
      after.sink.accepted = total after.results ∧
      after.sink.link.sent = total after.results + after.results.countP cutOff ∧
      after.sink.link.next = UInt16.ofNat after.sink.link.sent ∧
      (after.sink.link.sent = total after.results ↔
        ∀ result ∈ after.results, cutOff result = false) := by
  intro after
  have balanced := (balanced_start sender meanwhile).run calls
  refine ⟨Loopback.sends_send, balanced.accepted, balanced.sent, balanced.next, ?_⟩
  have zero : after.sink.link.sent = total after.results ↔ after.results.countP cutOff = 0 := by
    have sent : after.sink.link.sent = total after.results + after.results.countP cutOff :=
      balanced.sent
    omega
  rw [zero, List.countP_eq_zero]
  simp

/-- A write that finds the other end gone reports nothing and is counted. -/
theorem sent_behind_closed_source :
    ∃ sender, Sender.create ⟨1400, none⟩ = .ok sender ∧
      let frame : Frame := { Frame.blank with payload := [1] }
      let after := (start sender []).run [.reading .close, .write frame]
      after.results = [.error (.pushFailed 0 .closed)] ∧
        total after.results = 0 ∧ after.sink.accepted = 0 ∧
        after.sink.link.sent = 1 ∧ after.sink.link.next = 1 := by
  refine ⟨_, rfl, ?_⟩
  decide +kernel

end Account

end FrameLink

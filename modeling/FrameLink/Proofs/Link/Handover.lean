import FrameLink.Proofs.Link.Loopback

/-!
# What a loopback link hands over

Sends, reads and requests for losses come in any order. The requests alone tell which datagrams are
accepted and which of them are lost (`Ledger`). The others come out in order, and the flag on each
tells exactly whether something was lost in front of it (`Handover.received_of_accepted`). A gap of
a whole round of numbers would not be seen; but what is lost once is lost again when its number
comes round, so nothing comes out behind such a gap.
-/

namespace FrameLink.Transport.Loopback

/-! ## What is asked for -/

/-- A call to one end of a link. -/
inductive Call where
  | send (datagram : Datagram)
  | lose (sequences : List UInt16)
  | failAfter (count : Nat)
  | receive
  deriving DecidableEq, Repr

/-- A datagram that was accepted. -/
structure Accepted where
  datagram : Datagram
  /-- Whether its number was one to lose when it was sent. -/
  lost : Bool
  deriving DecidableEq, Repr

/-- What the calls so far asked for. -/
structure Ledger where
  /-- The numbers to lose. -/
  losing : List UInt16
  /-- The number of datagrams behind which every send is rejected, where one is set. -/
  failAfter : Option Nat
  accepted : List Accepted
  deriving DecidableEq, Repr

namespace Ledger

/-- The ledger of no call. -/
def empty : Ledger := ⟨[], none, []⟩

/-- Whether the next send is rejected. -/
def rejects (ledger : Ledger) : Bool :=
  ledger.failAfter.any (· ≤ ledger.accepted.length)

/-- The record of the datagram that is accepted next. -/
def record (ledger : Ledger) (datagram : Datagram) : Accepted where
  datagram := datagram
  lost := ledger.losing.contains (UInt16.ofNat ledger.accepted.length)

/-- Enters a call. A send that is rejected leaves no trace. -/
def enter (ledger : Ledger) : Call → Ledger
  | .send datagram =>
      if ledger.rejects then ledger
      else { ledger with accepted := ledger.accepted ++ [ledger.record datagram] }
  | .lose sequences => { ledger with losing := ledger.losing ++ sequences }
  | .failAfter count => { ledger with failAfter := some count }
  | .receive => ledger

/-- The ledger of calls in order. -/
def ofCalls (calls : List Call) : Ledger :=
  calls.foldl enter empty

theorem ofCalls_concat (calls : List Call) (call : Call) :
    ofCalls (calls ++ [call]) = (ofCalls calls).enter call := by
  rw [ofCalls, ofCalls, List.foldl_append]
  rfl

end Ledger

/-! ## What comes out of it -/

/-- The datagrams that come out. The flag of the first one says that it is the first, or that there
was a gap in front of all of them; that of any other one, that something was lost between it and the
one before. -/
def comingOut (gap : Bool) : List Accepted → List Datagram
  | [] => []
  | entry :: rest =>
      if entry.lost then comingOut true rest
      else { entry.datagram with discont := gap } :: comingOut false rest

/-- Whether what comes next has a gap in front of it: the last datagram was lost, or there was none
and a gap to begin with. -/
def gapBehind (gap : Bool) (accepted : List Accepted) : Bool :=
  accepted.foldl (fun _ entry => entry.lost) gap

theorem comingOut_append (gap : Bool) (front back : List Accepted) :
    comingOut gap (front ++ back) =
      comingOut gap front ++ comingOut (gapBehind gap front) back := by
  induction front generalizing gap with
  | nil => rfl
  | cons entry front ih =>
      rw [List.cons_append, comingOut, comingOut, gapBehind, List.foldl_cons]
      cases lost : entry.lost with
      | true => exact ih true
      | false =>
          rw [if_neg Bool.false_ne_true, if_neg Bool.false_ne_true, ih, List.cons_append]
          rfl

theorem gapBehind_append (gap : Bool) (front : List Accepted) (entry : Accepted)
    (back : List Accepted) :
    gapBehind gap (front ++ entry :: back) = gapBehind entry.lost back := by
  rw [gapBehind, gapBehind, List.foldl_append, List.foldl_cons]

/-- Losses alone open a gap, and none of them closes it. -/
theorem gapBehind_of_lost {accepted : List Accepted} (gap : Bool)
    (all : ∀ entry ∈ accepted, entry.lost = true) :
    gapBehind gap accepted = (gap || !accepted.isEmpty) := by
  induction accepted generalizing gap with
  | nil => exact (Bool.or_false gap).symm
  | cons entry rest ih =>
      obtain ⟨first, others⟩ := List.forall_mem_cons.1 all
      rw [gapBehind, List.foldl_cons, first]
      exact (ih true others).trans (Bool.or_true gap).symm

/-! ## The tracker -/

/-- A tracker reads bytes as datagrams, and is another one behind them. -/
inductive Tracked : SequenceTracker → List Bytes → List Datagram → SequenceTracker → Prop
  | nil {tracker : SequenceTracker} : Tracked tracker [] [] tracker
  | cons {tracker next behind : SequenceTracker} {raw : Bytes} {queue : List Bytes}
      {datagram : Datagram} {rest : List Datagram}
      (first : tracker.receive raw = (.ok datagram, next))
      (others : Tracked next queue rest behind) :
      Tracked tracker (raw :: queue) (datagram :: rest) behind

theorem Tracked.concat {tracker middle behind : SequenceTracker} {queue : List Bytes}
    {datagrams : List Datagram} {raw : Bytes} {datagram : Datagram}
    (tracked : Tracked tracker queue datagrams middle)
    (last : middle.receive raw = (.ok datagram, behind)) :
    Tracked tracker (queue ++ [raw]) (datagrams ++ [datagram]) behind := by
  induction tracked with
  | nil => exact .cons last .nil
  | cons first _ ih => exact .cons first (ih last)

theorem Tracked.length_eq {tracker behind : SequenceTracker} {queue : List Bytes}
    {datagrams : List Datagram} (tracked : Tracked tracker queue datagrams behind) :
    queue.length = datagrams.length := by
  induction tracked with
  | nil => rfl
  | cons _ _ ih => rw [List.length_cons, List.length_cons, ih]

/-- A tracker that has seen the last datagram that was not lost. -/
inductive Trails (accepted : List Accepted) : SequenceTracker → Prop
  | fresh (all : ∀ entry ∈ accepted, entry.lost = true) : Trails accepted .fresh
  | behind {front back : List Accepted} {entry : Accepted}
      (split : accepted = front ++ entry :: back) (kept : entry.lost = false)
      (all : ∀ other ∈ back, other.lost = true) :
      Trails accepted ⟨some (labels.sequence front.length)⟩

/-- A loss changes nothing at the tracker. -/
theorem Trails.lose {accepted : List Accepted} {tracker : SequenceTracker} {entry : Accepted}
    (trails : Trails accepted tracker) (lost : entry.lost = true) :
    Trails (accepted ++ [entry]) tracker := by
  have still : ∀ {entries : List Accepted}, (∀ other ∈ entries, other.lost = true) →
      ∀ other ∈ entries ++ [entry], other.lost = true := by
    intro entries all
    exact List.forall_mem_append.2 ⟨all, List.forall_mem_singleton.2 lost⟩
  cases trails with
  | fresh all => exact .fresh (still all)
  | behind split kept all =>
      rw [split, List.append_assoc, List.cons_append]
      exact .behind rfl kept (still all)

/-- Every datagram that was lost has a number to lose. -/
def Ledger.Noted (ledger : Ledger) : Prop :=
  ∀ position entry, ledger.accepted[position]? = some entry → entry.lost = true →
    UInt16.ofNat position ∈ ledger.losing

theorem Ledger.Noted.record {ledger : Ledger} (noted : ledger.Noted) (datagram : Datagram) :
    Ledger.Noted { ledger with accepted := ledger.accepted ++ [ledger.record datagram] } := by
  intro position entry there lost
  rcases Nat.lt_or_ge position ledger.accepted.length with earlier | new
  · rw [List.getElem?_append_left earlier] at there
    exact noted position entry there lost
  · rw [List.getElem?_append_right new, List.getElem?_singleton] at there
    split at there
    next last =>
      cases there
      obtain rfl : position = ledger.accepted.length := by omega
      exact List.contains_iff_mem.1 lost
    next => cases there

/-- The tracker sees the gap in front of the next datagram, where there is one. -/
theorem Trails.breaksAt {ledger : Ledger} {tracker : SequenceTracker}
    (trails : Trails ledger.accepted tracker) (noted : ledger.Noted)
    (kept : UInt16.ofNat ledger.accepted.length ∉ ledger.losing) :
    tracker.breaksAt (labels.sequence ledger.accepted.length) =
      gapBehind true ledger.accepted := by
  cases trails with
  | fresh all =>
      rw [gapBehind_of_lost true all]
      rfl
  | @behind front back entry split came all =>
      rw [split, gapBehind_append, came, gapBehind_of_lost false all, ← split]
      have length : ledger.accepted.length = front.length + 1 + back.length := by
        rw [split, List.length_append, List.length_cons]
        omega
      cases back with
      | nil =>
          rw [length]
          exact labels.breaksAt_next front.length
      | cons next rest =>
          -- The number behind the last one is to be lost for good, since its datagram was lost.
          have lost : next.lost = true := all next List.mem_cons_self
          have there : ledger.accepted[front.length + 1]? = some next := by
            rw [split, List.getElem?_append_right (Nat.le_add_right _ _), Nat.add_sub_cancel_left]
            rfl
          apply labels.breaksAt_of_ne
          intro wrapped
          have same := (labels.sequence_succ_eq_iff front.length ledger.accepted.length).2 wrapped
          have succ := (labels.sequence_succ_eq_iff front.length (front.length + 1)).2 rfl
          apply kept
          rw [← sequence_labels, ← same, succ, sequence_labels]
          exact noted _ next there lost

/-! ## The run -/

/-- A link with the datagrams that it has handed over. -/
structure Handover where
  link : Loopback
  received : List Datagram
  deriving DecidableEq, Repr

namespace Handover

/-- A link that nothing was done with. -/
def fresh : Handover := ⟨.fresh, []⟩

/-- Makes a call. -/
def perform (handover : Handover) : Call → Handover
  | .send datagram => { handover with link := (handover.link.send datagram).2 }
  | .lose sequences => { handover with link := handover.link.lose sequences }
  | .failAfter count => { handover with link := handover.link.setFailAfter count }
  | .receive => {
      link := handover.link.receive.2
      received := handover.received ++ handover.link.receive.1.toOption.toList }

/-- Makes calls in order. -/
def run (handover : Handover) (calls : List Call) : Handover :=
  calls.foldl perform handover

theorem run_concat (handover : Handover) (calls : List Call) (call : Call) :
    handover.run (calls ++ [call]) = (handover.run calls).perform call := by
  rw [run, run, List.foldl_append]
  rfl

/-- A link with both ends open that has done what a ledger says. -/
structure Obeys (link : Loopback) (ledger : Ledger) : Prop where
  next : link.next = labels.sequence ledger.accepted.length
  sent : link.sent = ledger.accepted.length
  lost : link.lost = ledger.losing
  failAfter : link.failAfter = ledger.failAfter
  sinkOpen : link.sinkOpen = true
  sourceOpen : link.sourceOpen = true

/-- What was handed over and what is still under way is what comes out of a ledger. -/
structure Exact (handover : Handover) (ledger : Ledger) : Prop where
  obeys : Obeys handover.link ledger
  noted : ledger.Noted
  ahead : ∃ coming tracker,
    Tracked handover.link.tracker handover.link.queue coming tracker ∧
      Trails ledger.accepted tracker ∧
      handover.received ++ coming = comingOut true ledger.accepted

theorem exact_fresh : fresh.Exact .empty where
  obeys := ⟨rfl, rfl, rfl, rfl, rfl, rfl⟩
  noted := by
    intro position entry there
    cases there
  ahead := ⟨[], .fresh, .nil, .fresh (List.forall_mem_nil _), rfl⟩

section Step

variable {handover : Handover} {ledger : Ledger}

theorem Obeys.isBroken {link : Loopback} (obeys : Obeys link ledger) :
    link.isBroken = ledger.rejects := by
  rw [Loopback.isBroken, Ledger.rejects, obeys.failAfter, obeys.sent]
  cases ledger.failAfter with
  | none => rfl
  | some count => rfl

/-- A send that is rejected leaves no trace. -/
theorem Obeys.send_of_rejects {link : Loopback} (obeys : Obeys link ledger)
    (rejected : ledger.rejects = true) (datagram : Datagram) :
    link.send datagram = (.error (.io (.ofKind .brokenPipe)), link) := by
  rw [Loopback.send, obeys.isBroken, if_pos rejected]

/-- A send that is not rejected takes the next number, and queues the datagram unless that number is
one to lose. -/
theorem Obeys.send_of_accepts {link : Loopback} (obeys : Obeys link ledger)
    (accepted : ledger.rejects = false) (datagram : Datagram) :
    link.send datagram = (.ok (), { link with
      next := labels.sequence (ledger.accepted.length + 1)
      sent := ledger.accepted.length + 1
      queue := link.queue ++
        if (ledger.record datagram).lost then []
        else [datagram.wire CarrierHeader.defaultPayloadType
          (labels.sequence ledger.accepted.length) 0] }) := by
  have next : labels.sequence ledger.accepted.length + 1 =
      labels.sequence (ledger.accepted.length + 1) := by
    rw [Labels.sequence_add]
    rfl
  have fate : ledger.losing.contains (labels.sequence ledger.accepted.length) =
      (ledger.record datagram).lost := by
    rw [sequence_labels, Ledger.record]
  simp only [Loopback.send, obeys.isBroken, accepted, obeys.next, obeys.lost, obeys.sent, next,
    fate, obeys.sourceOpen, Bool.false_eq_true, if_false, if_true]
  split
  next => rw [List.append_nil]
  next => rfl

/-- A datagram that was lost is the last one that the ledger knows, and the tracker did not see
it. -/
theorem Exact.lost (exact : handover.Exact ledger) {datagram : Datagram}
    (lost : (ledger.record datagram).lost = true) :
    ∃ coming tracker,
      Tracked handover.link.tracker handover.link.queue coming tracker ∧
        Trails (ledger.accepted ++ [ledger.record datagram]) tracker ∧
        handover.received ++ coming =
          comingOut true (ledger.accepted ++ [ledger.record datagram]) := by
  obtain ⟨coming, tracker, tracked, trails, outcome⟩ := exact.ahead
  refine ⟨coming, tracker, tracked, trails.lose lost, ?_⟩
  rw [comingOut_append, outcome, comingOut, lost, if_pos rfl, comingOut, List.append_nil]

/-- A datagram that was not lost will be read with the flag that it comes out with. -/
theorem Exact.queued (exact : handover.Exact ledger) {datagram : Datagram}
    (kept : (ledger.record datagram).lost = false) :
    ∃ coming tracker,
      Tracked handover.link.tracker
          (handover.link.queue ++ [datagram.wire CarrierHeader.defaultPayloadType
            (labels.sequence ledger.accepted.length) 0]) coming tracker ∧
        Trails (ledger.accepted ++ [ledger.record datagram]) tracker ∧
        handover.received ++ coming =
          comingOut true (ledger.accepted ++ [ledger.record datagram]) := by
  obtain ⟨coming, tracker, tracked, trails, outcome⟩ := exact.ahead
  have unlisted : UInt16.ofNat ledger.accepted.length ∉ ledger.losing := by
    intro listed
    rw [Ledger.record, List.contains_iff_mem.2 listed] at kept
    cases kept
  have read := tracker.receive_wire datagram CarrierHeader.defaultPayloadType
    (labels.sequence ledger.accepted.length) 0
  rw [trails.breaksAt exact.noted unlisted] at read
  refine ⟨_, _, tracked.concat read, .behind rfl kept (List.forall_mem_nil _), ?_⟩
  rw [← List.append_assoc, outcome, comingOut_append, comingOut, kept, if_neg Bool.false_ne_true,
    comingOut]
  rfl

theorem Exact.send (exact : handover.Exact ledger) (datagram : Datagram) :
    (handover.perform (.send datagram)).Exact (ledger.enter (.send datagram)) := by
  rw [perform, Ledger.enter]
  cases rejected : ledger.rejects with
  | true =>
      rw [exact.obeys.send_of_rejects rejected, if_pos rfl]
      exact exact
  | false =>
      rw [exact.obeys.send_of_accepts rejected, if_neg Bool.false_ne_true]
      have length : (ledger.accepted ++ [ledger.record datagram]).length =
          ledger.accepted.length + 1 := List.length_append
      refine ⟨⟨?_, ?_, exact.obeys.lost, exact.obeys.failAfter, exact.obeys.sinkOpen,
        exact.obeys.sourceOpen⟩, exact.noted.record datagram, ?_⟩
      · rw [length]
      · rw [length]
      · cases lost : (ledger.record datagram).lost with
        | true =>
            rw [if_pos rfl, List.append_nil]
            exact exact.lost lost
        | false =>
            rw [if_neg Bool.false_ne_true]
            exact exact.queued lost

theorem Exact.lose (exact : handover.Exact ledger) (sequences : List UInt16) :
    (handover.perform (.lose sequences)).Exact (ledger.enter (.lose sequences)) where
  obeys := { exact.obeys with lost := congrArg (· ++ sequences) exact.obeys.lost }
  noted := by
    intro position entry there lost
    exact List.mem_append_left _ (exact.noted position entry there lost)
  ahead := exact.ahead

theorem Exact.setFailAfter (exact : handover.Exact ledger) (count : Nat) :
    (handover.perform (.failAfter count)).Exact (ledger.enter (.failAfter count)) where
  obeys := { exact.obeys with failAfter := rfl }
  noted := exact.noted
  ahead := exact.ahead

/-- A read hands over the first datagram under way, and without one tells that there is none. -/
theorem Exact.receive (exact : handover.Exact ledger) :
    (handover.perform .receive).Exact ledger ∧
      handover.link.receive.1 =
        match (comingOut true ledger.accepted)[handover.received.length]? with
        | some datagram => .ok datagram
        | none => .error (.io (.ofKind .wouldBlock)) := by
  obtain ⟨coming, tracker, tracked, trails, outcome⟩ := exact.ahead
  have next : (comingOut true ledger.accepted)[handover.received.length]? = coming[0]? := by
    rw [← outcome, List.getElem?_append_right (Nat.le_refl _), Nat.sub_self]
  rw [next, perform]
  cases queued : handover.link.queue with
  | nil =>
      rw [queued] at tracked
      cases tracked
      have nothing : handover.link.receive =
          (.error (.io (.ofKind .wouldBlock)), handover.link) := by
        simp only [Loopback.receive, queued, exact.obeys.sinkOpen, if_true]
      rw [nothing]
      refine ⟨?_, rfl⟩
      rw [show (Except.error _ : Except TransportError Datagram).toOption.toList = [] from rfl,
        List.append_nil]
      exact exact
  | cons raw queue =>
      rw [queued] at tracked
      cases tracked with
      | @cons _ behind _ _ _ datagram rest first others =>
          have read : handover.link.receive =
              (.ok datagram, { handover.link with queue, tracker := behind }) := by
            simp only [Loopback.receive, queued, first]
          rw [read]
          refine ⟨⟨⟨exact.obeys.next, exact.obeys.sent, exact.obeys.lost, exact.obeys.failAfter,
            exact.obeys.sinkOpen, exact.obeys.sourceOpen⟩, exact.noted, ?_⟩, rfl⟩
          refine ⟨rest, tracker, others, trails, ?_⟩
          rw [← outcome, List.append_assoc]
          rfl

end Step

/-- Whatever is called, the link hands over what the ledger says. -/
theorem exact_run (calls : List Call) : (fresh.run calls).Exact (.ofCalls calls) := by
  induction calls using List.reverseRecOn with
  | nil => exact exact_fresh
  | append_singleton calls call ih =>
      rw [run_concat, Ledger.ofCalls_concat]
      cases call with
      | send datagram => exact ih.send datagram
      | lose sequences => exact ih.lose sequences
      | failAfter count => exact ih.setFailAfter count
      | receive => exact ih.receive.1

/-- A loopback link loses what it was told to lose and nothing else, and tells every loss. For calls
of every kind in every order: what was received is a front of what comes out of the datagrams that
were accepted, and all of it exactly if nothing is queued; the next read hands over the next one,
and only where there is none reports that it would block. A send is rejected exactly if the limit is
reached, and only then does it leave the link as it was; the number of the next datagram is told by
how many were accepted. -/
theorem received_of_accepted (calls : List Call) :
    let handover := fresh.run calls
    let ledger := Ledger.ofCalls calls
    let out := comingOut true ledger.accepted
    handover.received <+: out ∧
      (handover.link.queue = [] ↔ handover.received = out) ∧
      (handover.link.receive.1 =
        match out[handover.received.length]? with
        | some datagram => .ok datagram
        | none => .error (.io (.ofKind .wouldBlock))) ∧
      (∀ datagram, (handover.link.send datagram).1 =
        if ledger.rejects then .error (.io (.ofKind .brokenPipe)) else .ok ()) ∧
      (∀ datagram, (handover.link.send datagram).2 = handover.link ↔ ledger.rejects = true) ∧
      handover.link.next = UInt16.ofNat ledger.accepted.length := by
  intro handover ledger out
  have exact : handover.Exact ledger := exact_run calls
  obtain ⟨coming, _, tracked, _, outcome⟩ := exact.ahead
  refine ⟨⟨coming, outcome⟩, ?_, exact.receive.2, ?_, ?_, ?_⟩
  · rw [← List.length_eq_zero_iff, tracked.length_eq, List.length_eq_zero_iff,
      ← List.self_eq_append_right, outcome]
  · intro datagram
    cases rejected : ledger.rejects with
    | true => rw [exact.obeys.send_of_rejects rejected, if_pos rfl]
    | false => rw [exact.obeys.send_of_accepts rejected, if_neg Bool.false_ne_true]
  · intro datagram
    cases rejected : ledger.rejects with
    | true => rw [exact.obeys.send_of_rejects rejected, eq_self, eq_self]
    | false =>
        rw [exact.obeys.send_of_accepts rejected]
        refine iff_of_false ?_ Bool.false_ne_true
        intro same
        have counted := congrArg Loopback.sent same
        rw [exact.obeys.sent] at counted
        exact Nat.succ_ne_self _ counted
  · rw [exact.obeys.next, sequence_labels]

/-- The second datagram is lost, and the third send is rejected. The datagram of the fourth send has
the third number, and a gap in front of it. -/
example :
    let datagram (timestamp : UInt32) : Datagram := ⟨true, timestamp, false, [7]⟩
    (fresh.run [.lose [1], .send (datagram 0), .send (datagram 1), .failAfter 2,
      .send (datagram 2), .failAfter 9, .send (datagram 3), .send (datagram 4), .receive, .receive,
      .receive, .receive]).received.map (fun received => (received.timestamp, received.discont)) =
      [(0, true), (3, true), (4, false)] := by
  decide

end Handover

end FrameLink.Transport.Loopback

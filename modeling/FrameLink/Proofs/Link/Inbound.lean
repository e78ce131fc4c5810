import FrameLink.Proofs.Encoding.Header
import FrameLink.Proofs.Link.Line

/-!
# The receiving end of a line

The receiving end sees bytes, and tells a gap by the sequence number alone (`Inbound`). As long as
it sees exactly the gaps that are there (`Told`), it answers as a receiver that is told of every
loss (`Follows.takeAll`). So it does where fewer than 65535 datagrams are lost in a row, and where
the sequence number alone decides what is lost.
-/

namespace FrameLink

open FrameLink.Receiver (Answer)

/-! ## Sequence numbers -/

namespace Labels

/-- The number behind that of one position is the number of another one, up to the wrap. -/
theorem sequence_succ_eq_iff (labels : Labels) (last position : Nat) :
    labels.sequence last + 1 = labels.sequence position ↔
      (last + 1) % 65536 = position % 65536 := by
  rw [sequence, sequence, ← UInt16.toNat_inj]
  simp only [UInt16.toNat_add, UInt16.toNat_ofNat']
  have first := labels.first.toNat_lt
  have one : (1 : UInt16).toNat = 1 := rfl
  rw [one]
  omega

/-- The next datagram makes no gap. -/
theorem breaksAt_next (labels : Labels) (position : Nat) :
    (SequenceTracker.mk (some (labels.sequence position))).breaksAt
      (labels.sequence (position + 1)) = false := by
  have next := (labels.sequence_succ_eq_iff position (position + 1)).2 rfl
  simp [SequenceTracker.breaksAt, next]

/-- A datagram makes a gap unless it has the next number. -/
theorem breaksAt_of_ne (labels : Labels) {last position : Nat}
    (other : (last + 1) % 65536 ≠ position % 65536) :
    (SequenceTracker.mk (some (labels.sequence last))).breaksAt (labels.sequence position) =
      true := by
  have different : labels.sequence last + 1 ≠ labels.sequence position := by
    intro same
    exact other ((labels.sequence_succ_eq_iff last position).1 same)
  simpa [SequenceTracker.breaksAt] using different

/-- Any other datagram makes a gap, unless it is too far off. -/
theorem breaksAt_apart (labels : Labels) {last position : Nat} (other : position ≠ last + 1)
    (before : last < position + 65535) (behind : position < last + 65537) :
    (SequenceTracker.mk (some (labels.sequence last))).breaksAt (labels.sequence position) =
      true := by
  apply labels.breaksAt_of_ne
  omega

end Labels

/-! ## The end -/

/-- A receiver with the tracker in front of it. -/
structure Inbound where
  tracker : SequenceTracker
  receiver : Receiver
  deriving DecidableEq, Repr

namespace Inbound

/-- An end that has seen nothing. -/
def fresh (receiver : Receiver) : Inbound :=
  ⟨.fresh, receiver⟩

/-- Takes bytes off the wire; bytes that are no datagram cost the frame at hand. -/
def take (inbound : Inbound) (raw : Bytes) : Answer × Inbound :=
  match inbound.tracker.receive raw with
  | (.error error, tracker) => (.error (.transport error), ⟨tracker, inbound.receiver.discard⟩)
  | (.ok datagram, tracker) =>
      let (answer, receiver) := inbound.receiver.acceptDatagram datagram
      (answer, ⟨tracker, receiver⟩)

/-- Takes bytes in order. -/
def takeAll (inbound : Inbound) : List Bytes → List Answer × Inbound
  | [] => ([], inbound)
  | raw :: rest =>
      let first := inbound.take raw
      let others := first.2.takeAll rest
      (first.1 :: others.1, others.2)

theorem takeAll_append (inbound : Inbound) (front back : List Bytes) :
    inbound.takeAll (front ++ back) =
      ((inbound.takeAll front).1 ++ ((inbound.takeAll front).2.takeAll back).1,
        ((inbound.takeAll front).2.takeAll back).2) := by
  induction front generalizing inbound with
  | nil => rfl
  | cons raw front ih =>
      rw [List.cons_append, takeAll, ih]
      rfl

/-- A packet survives the wire; what is new is the gap that the tracker sees in front of it. -/
theorem take_raw (inbound : Inbound) (labels : Labels) (position : Nat) (packet : Packet)
    {discont : Bool} (seen : inbound.tracker.breaksAt (labels.sequence position) = discont) :
    inbound.take (labels.raw position packet) =
      ((inbound.receiver.accept { packet with discont }).1,
        ⟨⟨some (labels.sequence position)⟩,
          (inbound.receiver.accept { packet with discont }).2⟩) := by
  rw [take, Labels.raw, SequenceTracker.receive_wire, seen]
  simp only [Receiver.acceptDatagram, Packet.ofDatagram_toDatagram]

end Inbound

/-! ## Losses -/

/-- What arrives of a line, the first element of which stands at a position. -/
def arriving {α : Type} (lost : Nat → Bool) (position : Nat) : List α → List α
  | [] => []
  | element :: rest =>
      if lost position then arriving lost (position + 1) rest
      else element :: arriving lost (position + 1) rest

/-- Without losses everything arrives. -/
theorem arriving_none {α : Type} (position : Nat) (elements : List α) :
    arriving (fun _ => false) position elements = elements := by
  induction elements generalizing position with
  | nil => rfl
  | cons element rest ih => rw [arriving, if_neg Bool.false_ne_true, ih]

theorem arriving_append {α : Type} (lost : Nat → Bool) (position : Nat) (front back : List α) :
    arriving lost position (front ++ back) =
      arriving lost position front ++ arriving lost (position + front.length) back := by
  induction front generalizing position with
  | nil => rfl
  | cons element front ih =>
      rw [List.cons_append, arriving, arriving, ih, List.length_cons, Nat.add_assoc,
        Nat.add_comm 1]
      split
      next => rfl
      next => rfl

/-- No more than 65534 datagrams in a row are lost. -/
def Sparse (lost : Nat → Bool) : Prop :=
  ∀ position, ∃ next, position ≤ next ∧ next < position + 65535 ∧ lost next = false

theorem sparse_none : Sparse fun _ => false := by
  intro position
  exact ⟨position, Nat.le_refl _, Nat.lt_add_of_pos_right (by decide), rfl⟩

/-- Wherever losses end, the number of the next datagram tells that there were some. -/
def Told (lost : Nat → Bool) : Prop :=
  ∀ last position, last + 1 < position →
    (∀ between, last < between → between < position → lost between = true) →
    lost position = false → (last + 1) % 65536 ≠ position % 65536

/-- Losses that are few enough in a row are told. -/
theorem Sparse.told {lost : Nat → Bool} (sparse : Sparse lost) : Told lost := by
  intro last position behind all _
  obtain ⟨next, after, near, kept⟩ := sparse (last + 1)
  have passed : position ≤ next := by
    apply Nat.le_of_not_lt
    intro between
    rw [all next after between] at kept
    cases kept
  omega

/-- Losses are told where the number alone decides what is lost: the next number is that of a lost
datagram. -/
theorem told_of_sequence (labels : Labels) (fate : UInt16 → Bool) :
    Told fun position => fate (labels.sequence position) := by
  intro last position behind all kept wrapped
  -- The number that comes round to the next one is that of the first datagram of the gap.
  have next := (labels.sequence_succ_eq_iff last (last + 1)).2 rfl
  have gone : fate (labels.sequence (last + 1)) = true :=
    all (last + 1) (Nat.lt_succ_self last) behind
  rw [← next, (labels.sequence_succ_eq_iff last position).2 wrapped] at gone
  exact Bool.false_ne_true (kept.symm.trans gone)

/-- A packet that the sender made, which tells of no gap. -/
def Packet.Plain (packet : Packet) : Prop :=
  packet.discont = false

namespace Packet.Plain

variable {packet : Packet}

theorem told (plain : packet.Plain) : { packet with discont := false } = packet := by
  rw [← plain]

/-- A gap costs what is at hand, and nothing else. -/
theorem accept_behind_gap (plain : packet.Plain) (receiver : Receiver) :
    receiver.accept { packet with discont := true } = receiver.discard.accept packet := by
  rw [Receiver.accept, Receiver.accept, plain]
  rfl

end Packet.Plain

theorem Receiver.plain_packetsFrom (header : PacketHeader) (timestamp : UInt32) (offset : Nat)
    (pieces : List Bytes) :
    ∀ packet ∈ Sender.packetsFrom header timestamp offset pieces, packet.Plain := by
  induction pieces generalizing offset with
  | nil => simp [Sender.packetsFrom]
  | cons piece rest ih =>
      intro packet member
      rcases List.mem_cons.1 member with first | later
      · rw [first]
        rfl
      · exact ih _ packet later

theorem Line.plain_packets (log : List Attempt) : ∀ packet ∈ packets log, packet.Plain := by
  intro packet member
  obtain ⟨attempt, _, went⟩ := List.mem_flatMap.1 member
  exact Receiver.plain_packetsFrom _ _ _ _ packet (List.mem_of_mem_take went)

/-- The receiver of an end, next to one that is told of every loss up to a position. Behind a gap
the two differ by what the end still has at hand, and its tracker will see the gap. -/
inductive Follows (lost : Nat → Bool) (labels : Labels) :
    (position : Nat) → Inbound → Receiver → Prop
  | fresh {position : Nat} {receiver : Receiver} :
      Follows lost labels position (.fresh receiver) receiver.discard
  | level {last : Nat} {receiver : Receiver} :
      Follows lost labels (last + 1) ⟨⟨some (labels.sequence last)⟩, receiver⟩ receiver
  | gap {last position : Nat} {receiver : Receiver} (behind : last + 1 < position)
      (all : ∀ between, last < between → between < position → lost between = true) :
      Follows lost labels position ⟨⟨some (labels.sequence last)⟩, receiver⟩ receiver.discard

namespace Follows

variable {lost : Nat → Bool} {labels : Labels} {position : Nat}
variable {inbound : Inbound} {receiver : Receiver}

/-- More losses further on make no difference. -/
theorem mono (follows : Follows lost labels position inbound receiver) {more : Nat → Bool}
    (still : ∀ other, lost other = true → more other = true) :
    Follows more labels position inbound receiver := by
  cases follows with
  | fresh => exact .fresh
  | level => exact .level
  | gap behind all =>
      apply Follows.gap behind
      intro between after before
      exact still between (all between after before)

/-- A loss is not seen at once. -/
theorem lose (follows : Follows lost labels position inbound receiver)
    (gone : lost position = true) :
    Follows lost labels (position + 1) inbound receiver.discard := by
  cases follows with
  | fresh => exact .fresh
  | @level last =>
      refine .gap (Nat.lt_succ_self _) ?_
      intro between after before
      obtain rfl : between = last + 1 := by omega
      exact gone
  | gap behind all =>
      refine .gap (Nat.lt_succ_of_lt behind) ?_
      intro between after before
      rcases Nat.lt_succ_iff_lt_or_eq.1 before with earlier | last
      · exact all between after earlier
      · rw [last]
        exact gone

/-- A packet that arrives is answered alike. -/
theorem arrive (follows : Follows lost labels position inbound receiver) (told : Told lost)
    (kept : lost position = false) {packet : Packet} (plain : packet.Plain) :
    (inbound.take (labels.raw position packet)).1 = (receiver.accept packet).1 ∧
      Follows lost labels (position + 1) (inbound.take (labels.raw position packet)).2
        (receiver.accept packet).2 := by
  cases follows with
  | fresh =>
      rw [Inbound.take_raw _ labels position packet rfl]
      rw [show (Inbound.fresh _).tracker.breaksAt (labels.sequence position) = true from rfl,
        plain.accept_behind_gap]
      exact ⟨rfl, .level⟩
  | @level last =>
      rw [Inbound.take_raw _ labels (last + 1) packet (labels.breaksAt_next last), plain.told]
      exact ⟨rfl, .level⟩
  | @gap last position _ behind all =>
      have gap := labels.breaksAt_of_ne (told last position behind all kept)
      rw [Inbound.take_raw _ labels position packet gap, plain.accept_behind_gap]
      exact ⟨rfl, .level⟩

/-- Whatever is lost, the packets that arrive are answered alike. -/
theorem takeAll (follows : Follows lost labels position inbound receiver) (told : Told lost)
    {packets : List Packet} (plain : ∀ packet ∈ packets, packet.Plain) :
    (inbound.takeAll (arriving lost position (labels.rawFrom position packets))).1 =
        (receiver.acceptOver lost position packets).1 ∧
      Follows lost labels (position + packets.length)
        (inbound.takeAll (arriving lost position (labels.rawFrom position packets))).2
        (receiver.acceptOver lost position packets).2 := by
  induction packets generalizing position inbound receiver with
  | nil => exact ⟨rfl, follows⟩
  | cons packet rest ih =>
      have others : ∀ other ∈ rest, other.Plain :=
        fun other member => plain other (List.mem_cons_of_mem _ member)
      rw [Labels.rawFrom, arriving, List.length_cons, ← Nat.add_assoc, Nat.add_right_comm position]
      cases gone : lost position with
      | true =>
          rw [if_pos rfl, Receiver.acceptOver_lost gone]
          exact ih (follows.lose gone) others
      | false =>
          obtain ⟨answer, level⟩ := follows.arrive told gone (plain packet List.mem_cons_self)
          obtain ⟨answers, after⟩ := ih level others
          rw [if_neg Bool.false_ne_true, Receiver.acceptOver_kept gone (Prod.eta _).symm,
            Inbound.takeAll]
          rw [answer, answers]
          exact ⟨rfl, after⟩

end Follows

end FrameLink

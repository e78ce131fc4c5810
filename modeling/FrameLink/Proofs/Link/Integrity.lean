import FrameLink.Proofs.Link.Inbound
import FrameLink.Proofs.Stream.Reads
import Mathlib.Data.List.Chain
import Mathlib.Data.List.Induction

/-!
# Integrity over a hostile line

Datagrams may be lost, repeated and come in any order. As long as two that are received back to
back were sent fewer than 65535 positions apart, the sequence numbers tell which of them follow each
other, so the bytes at hand are always the front of one frame, received in one piece
(`Line.Front`). What is delivered is therefore one frame that was written, as it was written
(`Line.deliveries_of_written`).
-/

namespace FrameLink

open FrameLink.Receiver (Answer)
open FrameLink.Sender (greatestFrame)
open FrameLink.Transport (TransportError)

/-- Whether a delivery is of a frame that was sent under a version. -/
def Frame.Carried (frame : Frame) (version : FormatVersion) : Delivery → Prop
  | .event event => frame.event = some event
  | .frame received => frame.event = none ∧ received.payload = frame.payload ∧
      received.flags = frame.flags ∧ received.timestamp = frame.timestamp ∧
      received.version = version

theorem Frame.carried_of_verdict {frame : Frame} {version : FormatVersion} {known : FormatCache}
    {changed : Bool} {delivery : Delivery}
    (delivered : frame.verdict version known changed = .ok (some delivery)) :
    frame.Carried version delivery := by
  unfold Frame.verdict at delivered
  split at delivered
  next event carried =>
    cases delivered
    exact carried
  next noEvent =>
    split at delivered
    next => cases delivered
    split at delivered
    next => cases delivered
    next =>
      cases delivered
      exact ⟨noEvent, rfl, rfl, rfl, rfl⟩

/-- The pieces of the frame of an attempt. -/
def Attempt.pieces (attempt : Attempt) : List Bytes :=
  attempt.sender.pieces attempt.frame

/-! ## Places -/

namespace Line

/-- The attempt that a position of the wire belongs to, and its place there. -/
def place : List Attempt → Nat → Option (Attempt × Nat)
  | [], _ => none
  | attempt :: rest, position =>
      if position < attempt.packets.length then some (attempt, position)
      else place rest (position - attempt.packets.length)

variable {log : List Attempt} {position index next : Nat} {attempt other : Attempt}

/-- A place belongs to an attempt of the log, which has its packets in a row. -/
theorem place_spec (placed : place log position = some (attempt, index)) :
    attempt ∈ log ∧ index < attempt.packets.length ∧ index ≤ position ∧
      ∀ inside < attempt.packets.length,
        place log (position - index + inside) = some (attempt, inside) := by
  induction log generalizing position with
  | nil => cases placed
  | cons first rest ih =>
      rw [place] at placed
      split at placed
      next inFirst =>
        cases placed
        refine ⟨List.mem_cons_self, inFirst, Nat.le_refl _, ?_⟩
        intro inside below
        rw [Nat.sub_self, Nat.zero_add, place, if_pos below]
      next behind =>
        obtain ⟨member, inside, before, all⟩ := ih placed
        refine ⟨List.mem_cons_of_mem _ member, inside, by omega, ?_⟩
        intro inside below
        rw [place, if_neg (by omega), ← all inside below]
        congr 1
        omega

/-- The wire holds at every place the packet of its attempt. -/
theorem getElem?_packets (placed : place log position = some (attempt, index)) :
    (packets log)[position]? = attempt.packets[index]? := by
  induction log generalizing position with
  | nil => cases placed
  | cons first rest ih =>
      rw [packets, List.flatMap_cons]
      rw [place] at placed
      split at placed
      next inFirst =>
        cases placed
        rw [List.getElem?_append_left inFirst]
      next behind =>
        rw [List.getElem?_append_right (Nat.le_of_not_lt behind)]
        exact ih placed

/-- Every packet of the wire has a place. -/
theorem exists_place (inside : position < (packets log).length) :
    ∃ attempt index, place log position = some (attempt, index) := by
  induction log generalizing position with
  | nil => exact absurd inside (Nat.not_lt_zero _)
  | cons first rest ih =>
      rw [place]
      split
      next => exact ⟨first, position, rfl⟩
      next behind =>
        rw [packets, List.flatMap_cons, List.length_append] at inside
        exact ih (by rw [packets]; omega)

theorem place_zero (placed : place log 0 = some (attempt, index)) : index = 0 := by
  have before := (place_spec placed).2.2.1
  omega

/-- Behind a packet comes the next one of its attempt, or the first one of another attempt. -/
theorem place_succ (placed : place log position = some (attempt, index))
    (follows : place log (position + 1) = some (other, next)) :
    (other = attempt ∧ next = index + 1) ∨ next = 0 := by
  induction log generalizing position with
  | nil => cases placed
  | cons first rest ih =>
      rw [place] at placed follows
      split at placed
      next inFirst =>
        obtain ⟨rfl, rfl⟩ := Prod.mk.inj (Option.some.inj placed)
        split at follows
        next =>
          cases follows
          exact .inl ⟨rfl, rfl⟩
        next behind =>
          have start : position + 1 - first.packets.length = 0 := by omega
          rw [start] at follows
          exact .inr (place_zero follows)
      next behind =>
        rw [if_neg (by omega), Nat.sub_add_comm (Nat.le_of_not_lt behind)] at follows
        exact ih placed follows

/-- The packet at a place is the fragment of its attempt there. -/
theorem packet_at (placed : place log position = some (attempt, index)) :
    ∃ piece, attempt.pieces[index]? = some piece ∧ index < attempt.sent ∧
      (packets log)[position]? = some (Receiver.fragment (attempt.sender.header attempt.frame)
        attempt.frame.timestamp (attempt.pieces.take index).flatten.length
        (index + 1 == attempt.pieces.length) piece) := by
  obtain ⟨_, inside, _, _⟩ := place_spec placed
  rw [Attempt.packets, List.length_take] at inside
  have whole : index < attempt.pieces.length := by
    rw [Attempt.fragments, Sender.length_fragments] at inside
    exact Nat.lt_of_lt_of_le inside (Nat.min_le_right _ _)
  have went : index < attempt.sent := Nat.lt_of_lt_of_le inside (Nat.min_le_left _ _)
  refine ⟨attempt.pieces[index], List.getElem?_eq_getElem whole, went, ?_⟩
  rw [getElem?_packets placed, Attempt.packets, List.getElem?_take_of_lt went, Attempt.fragments,
    Sender.fragments, Receiver.getElem?_packetsFrom, Nat.zero_add]
  change Option.map _ attempt.pieces[index]? = _
  rw [List.getElem?_eq_getElem whole]
  rfl

/-! ## The bytes at hand -/

/-- Bytes that are nothing, or the front of one frame, whose datagrams were received last and in
one piece. -/
inductive Front (log : List Attempt) (received : List Nat) : Bytes → Prop
  | nothing : Front log received []
  | held {attempt : Attempt} {position index : Nat}
      (last : received.getLast? = some position)
      (placed : place log position = some (attempt, index))
      (inOne : List.range' (position - index) (index + 1) <:+ received) :
      Front log received (attempt.pieces.take (index + 1)).flatten

/-- A piece that fits behind the bytes at hand makes the front of its frame longer. -/
theorem Front.extend {received : List Nat} {bytes piece : Bytes} (front : Front log received bytes)
    (placed : place log position = some (attempt, index))
    (somePiece : attempt.pieces[index]? = some piece)
    (adjacent : bytes ≠ [] → ∃ last, received.getLast? = some last ∧ position = last + 1)
    (fits : (attempt.pieces.take index).flatten.length = bytes.length) :
    bytes ++ piece = (attempt.pieces.take (index + 1)).flatten ∧
      List.range' (position - index) (index + 1) <:+ received ++ [position] := by
  have longer : (attempt.pieces.take (index + 1)).flatten =
      (attempt.pieces.take index).flatten ++ piece := by
    rw [List.take_add_one, somePiece]
    simp
  cases front with
  | nothing =>
      have first : index = 0 := by
        by_contra later
        exact Sender.flatten_take_ne_nil (Nat.pos_of_ne_zero later)
          (List.ne_nil_of_mem (List.mem_of_getElem? somePiece)) (List.length_eq_zero_iff.1 fits)
      rw [first] at longer ⊢
      rw [longer]
      exact ⟨rfl, List.suffix_append _ _⟩
  | @held earlier before count last placedBefore inOne =>
      have someBytes : (earlier.pieces.take (count + 1)).flatten ≠ [] := by
        obtain ⟨_, somePiece, _, _⟩ := packet_at placedBefore
        exact Sender.flatten_take_ne_nil (Nat.succ_pos count)
          (List.ne_nil_of_mem (List.mem_of_getElem? somePiece))
      obtain ⟨latest, same, rfl⟩ := adjacent someBytes
      rw [last] at same
      cases same
      rcases place_succ placedBefore placed with ⟨rfl, rfl⟩ | first
      · rw [longer]
        refine ⟨rfl, ?_⟩
        have start : before + 1 - (count + 1) = before - count := by omega
        have ends : before + 1 = before - count + (count + 1) := by
          have inFront := (place_spec placedBefore).2.2.1
          omega
        rw [start, List.range'_concat, Nat.one_mul, ← ends]
        obtain ⟨earlier, whole⟩ := inOne
        exact ⟨earlier, by rw [← List.append_assoc, whole]⟩
      · rw [first] at fits
        exact absurd (List.length_eq_zero_iff.1 fits.symm) someBytes

/-- A delivery of a frame that was written, all of whose datagrams were received in one piece. -/
def Delivered (log : List Attempt) (received : List Nat) (delivery : Delivery) : Prop :=
  ∃ attempt ∈ log, attempt.written = true ∧
    attempt.frame.Carried attempt.sender.current delivery ∧
    ∃ start, (∀ index < attempt.sent, place log (start + index) = some (attempt, index)) ∧
      List.range' start attempt.sent <:+: received

/-- What an end knows that received the datagrams of these positions: the last number, and the
front of one frame. -/
structure AtHand (log : List Attempt) (labels : Labels) (received : List Nat) (inbound : Inbound) :
    Prop where
  tracker : inbound.tracker.last = received.getLast?.map labels.sequence
  front : Front log received inbound.receiver.pending.toBytes

section Step

variable {labels : Labels} {received : List Nat} {inbound : Inbound} {packet : Packet}

/-- A packet meets the bytes at hand where it is the next one, and nothing otherwise. -/
theorem AtHand.meet (atHand : AtHand log labels received inbound) (plain : packet.Plain)
    (near : ∀ last, received.getLast? = some last →
      position < last + 65535 ∧ last < position + 65535) :
    ∃ bytes, Front log received bytes ∧
      (bytes ≠ [] → ∃ last, received.getLast? = some last ∧ position = last + 1) ∧
      inbound.take (labels.raw position packet) =
        (((inbound.receiver.holding bytes).accept packet).1,
          ⟨⟨some (labels.sequence position)⟩,
            ((inbound.receiver.holding bytes).accept packet).2⟩) := by
  have behindGap (gap : inbound.tracker.breaksAt (labels.sequence position) = true) :
      inbound.take (labels.raw position packet) =
        (((inbound.receiver.holding []).accept packet).1,
          ⟨⟨some (labels.sequence position)⟩,
            ((inbound.receiver.holding []).accept packet).2⟩) := by
    rw [Inbound.take_raw inbound labels position packet gap, plain.accept_behind_gap,
      Receiver.holding_nil]
  have tracker := atHand.tracker
  cases latest : received.getLast? with
  | none =>
      rw [latest] at tracker
      refine ⟨[], .nothing, fun held => absurd rfl held, behindGap ?_⟩
      rw [SequenceTracker.breaksAt, tracker]
      rfl
  | some last =>
      rw [latest] at tracker
      have known : inbound.tracker = ⟨some (labels.sequence last)⟩ :=
        congrArg SequenceTracker.mk tracker
      by_cases next : position = last + 1
      · refine ⟨_, atHand.front, fun _ => ⟨last, rfl, next⟩, ?_⟩
        have noGap : inbound.tracker.breaksAt (labels.sequence position) = false := by
          rw [known, next]
          exact labels.breaksAt_next last
        rw [Inbound.take_raw inbound labels position packet noGap, plain.told,
          Receiver.holding_pending]
      · refine ⟨[], .nothing, fun held => absurd rfl held, behindGap ?_⟩
        obtain ⟨behind, before⟩ := near last latest
        rw [known]
        exact labels.breaksAt_apart next before (Nat.lt_add_right 2 behind)

/-- Behind an error nothing is at hand. -/
theorem AtHand.refused (labels : Labels) (received : List Nat) (position : Nat)
    (receiver : Receiver) (error : FrameError) :
    AtHand log labels (received ++ [position])
        ⟨⟨some (labels.sequence position)⟩, receiver.holding []⟩ ∧
      ∀ delivery, (.error error : Answer) = .ok (some delivery) →
        Delivered log (received ++ [position]) delivery := by
  constructor
  · constructor
    · rw [List.getLast?_concat]
      rfl
    · rw [Receiver.toBytes_holding]
      exact .nothing
  · intro delivery delivered
    cases delivered

/-- The bytes of a whole frame that was received in one piece are of a frame that was written. -/
theorem AtHand.complete {attempt : Attempt} {index : Nat} (sound : attempt.Sound)
    (placed : place log position = some (attempt, index)) (went : index < attempt.sent)
    (ends : index + 1 = attempt.pieces.length)
    (inOne : List.range' (position - index) (index + 1) <:+ received ++ [position])
    (labels : Labels) (receiver : Receiver) :
    let completed := Receiver.complete (receiver.holding []) (attempt.sender.header attempt.frame)
      attempt.frame.timestamp attempt.bytes
    AtHand log labels (received ++ [position])
        ⟨⟨some (labels.sequence position)⟩, completed.2⟩ ∧
      ∀ delivery, completed.1 = .ok (some delivery) →
        Delivered log (received ++ [position]) delivery := by
  obtain ⟨member, _, _, row⟩ := place_spec placed
  have short := sound.short (Nat.ne_of_gt (Nat.lt_of_le_of_lt (Nat.zero_le _) went))
  have count : attempt.fragments.length = index + 1 := by
    rw [Attempt.fragments, Sender.length_fragments]
    exact ends.symm
  have all : attempt.sent = index + 1 := by
    apply Nat.le_antisymm
    · rw [← count]
      exact sound.sent_le
    · exact went
  have written : attempt.written = true :=
    sound.written_iff.2 ⟨short, all.trans count.symm⟩
  obtain ⟨active, completed⟩ := Receiver.complete_frame (receiver.holding []) attempt.sender
    attempt.frame short
  rw [Attempt.bytes, completed]
  constructor
  · constructor
    · rw [List.getLast?_concat]
      rfl
    · simp only [Receiver.toBytes_holding]
      exact .nothing
  · intro delivery delivered
    refine ⟨attempt, member, written, Frame.carried_of_verdict delivered, position - index, ?_, ?_⟩
    · intro inside below
      apply row inside
      rw [sound.length_packets]
      exact below
    · rw [all]
      exact inOne.isInfix

/-- Whatever datagram comes next, the bytes at hand stay the front of one frame, and a delivery is
of a frame that was written. -/
theorem AtHand.take (atHand : AtHand log labels received inbound)
    (sound : ∀ attempt ∈ log, attempt.Sound) (there : (packets log)[position]? = some packet)
    (near : ∀ last, received.getLast? = some last →
      position < last + 65535 ∧ last < position + 65535) :
    AtHand log labels (received ++ [position]) (inbound.take (labels.raw position packet)).2 ∧
      ∀ delivery, (inbound.take (labels.raw position packet)).1 = .ok (some delivery) →
        Delivered log (received ++ [position]) delivery := by
  obtain ⟨attempt, index, placed⟩ := exists_place (List.getElem?_eq_some_iff.1 there).1
  obtain ⟨piece, somePiece, went, same⟩ := packet_at placed
  rw [there] at same
  cases same
  have recorded := sound attempt (place_spec placed).1
  have short := recorded.short (Nat.ne_of_gt (Nat.lt_of_le_of_lt (Nat.zero_le _) went))
  have filled : piece ≠ [] := Sender.ne_nil_of_mem_pieces piece (List.mem_of_getElem? somePiece)
  have offset : (attempt.pieces.take index).flatten.length ≤ greatestFrame :=
    Nat.le_trans (Sender.length_flatten_take_le attempt.sender attempt.frame index) short
  have plain : Packet.Plain (Receiver.fragment (attempt.sender.header attempt.frame)
      attempt.frame.timestamp (attempt.pieces.take index).flatten.length
      (index + 1 == attempt.pieces.length) piece) := rfl
  obtain ⟨bytes, front, adjacent, taken⟩ := atHand.meet plain near
  rw [taken, Receiver.accept_fragment _ _ _ _ _ _ filled offset]
  split
  next => exact AtHand.refused labels received position inbound.receiver _
  next fits =>
    obtain ⟨longer, inOne⟩ := front.extend placed somePiece adjacent (not_not.1 fits)
    split
    next => exact AtHand.refused labels received position inbound.receiver _
    split
    next marker =>
      have ends := beq_iff_eq.1 marker
      have bytes : attempt.pieces.flatten = attempt.bytes := Sender.flatten_pieces _ _
      rw [longer, ends, List.take_length, bytes]
      exact AtHand.complete recorded placed went ends inOne labels inbound.receiver
    next =>
      constructor
      · constructor
        · rw [List.getLast?_concat]
          rfl
        · rw [Receiver.toBytes_holding, longer]
          exact .held List.getLast?_concat placed inOne
      · intro delivery delivered
        cases delivered

end Step

/-! ## Runs -/

/-- Positions that are near enough for their numbers to tell which one follows the other. -/
def Near (first second : Nat) : Prop :=
  second < first + 65535 ∧ first < second + 65535

instance (first second : Nat) : Decidable (Near first second) :=
  inferInstanceAs (Decidable (_ ∧ _))

theorem Delivered.concat {received : List Nat} {delivery : Delivery}
    (delivered : Delivered log received delivery) (position : Nat) :
    Delivered log (received ++ [position]) delivery := by
  obtain ⟨attempt, member, written, carried, start, row, inOne⟩ := delivered
  exact ⟨attempt, member, written, carried, start, row,
    inOne.trans (List.prefix_append received [position]).isInfix⟩

/-- Whatever datagrams an end takes, the bytes at hand stay the front of one frame, and every
delivery is of a frame that was written. -/
theorem atHand_takeAll (sound : ∀ attempt ∈ log, attempt.Sound) (labels : Labels)
    {receiver : Receiver} (waiting : receiver.pending = .empty) {received : List Nat}
    {raws : List Bytes} (near : received.IsChain Near)
    (there : raws.map some =
      received.map fun position => (labels.rawFrom 0 (packets log))[position]?) :
    AtHand log labels received ((Inbound.fresh receiver).takeAll raws).2 ∧
      ∀ delivery ∈ deliveries ((Inbound.fresh receiver).takeAll raws).1,
        Delivered log received delivery := by
  induction received using List.reverseRecOn generalizing raws with
  | nil =>
      obtain rfl : raws = [] := List.map_eq_nil_iff.1 there
      constructor
      · refine ⟨rfl, ?_⟩
        have nothing : receiver.pending.toBytes = [] := by rw [waiting, Gathered.toBytes_empty]
        rw [Inbound.takeAll, Inbound.fresh, nothing]
        exact .nothing
      · intro delivery member
        cases member
  | append_singleton received position ih =>
      rw [List.map_append, List.map_eq_append_iff] at there
      obtain ⟨front, back, rfl, thereFront, thereBack⟩ := there
      obtain ⟨raw, rest, rfl, last, thereRest⟩ := List.map_eq_cons_iff.1 thereBack
      simp only at last
      obtain rfl : rest = [] := List.map_eq_nil_iff.1 thereRest
      have held := labels.getElem?_rawFrom 0 position (packets log)
      rw [← last, Nat.zero_add] at held
      obtain ⟨packet, there, rfl⟩ := Option.map_eq_some_iff.1 held.symm
      obtain ⟨nearFront, _, nearLast⟩ := List.isChain_append.1 near
      obtain ⟨atHand, earlier⟩ := ih nearFront thereFront
      have step := atHand.take sound there fun latest held => nearLast latest held position rfl
      rw [Inbound.takeAll_append, Inbound.takeAll, Inbound.takeAll]
      refine ⟨step.1, ?_⟩
      intro delivery member
      rw [deliveries_append] at member
      rcases List.mem_append.1 member with before | now
      · exact (earlier delivery before).concat position
      · obtain ⟨answer, single, told⟩ := List.mem_filterMap.1 now
        rw [List.mem_singleton] at single
        apply step.2 delivery
        rw [← single]
        exact ok_of_delivered? told

/-- For every run, over a sink that may refuse any datagram, and every sequence of datagrams from
its wire that is received by an end with nothing at hand, with losses, repetitions and in any order,
as long as two that are received back to back are near: every delivery is of one frame that was
written, as it was written, and the datagrams of that frame were received in one piece. -/
theorem deliveries_of_written (config : SenderConfig) (labels : Labels)
    (refuse : Nat → Option TransportError) (roomy : PacketHeader.size < config.mtu) :
    ∃ sender, Sender.create config = .ok sender ∧
      ∀ (actions : List Action) (receiver : Receiver) (received : List Nat) (raws : List Bytes),
        let line := (Line.fresh sender labels refuse).run actions
        receiver.pending = .empty → received.IsChain Near →
        raws.map some = received.map (fun position => line.outlet.wire[position]?) →
        ∀ delivery ∈ deliveries ((Inbound.fresh receiver).takeAll raws).1,
          Delivered line.log received delivery := by
  obtain ⟨sender, created, _, announced, _, _⟩ := Sender.create_of_roomy roomy
  refine ⟨sender, created, ?_⟩
  intro actions receiver received raws line waiting near there
  have sound : line.Sound config.initial actions :=
    (sound_fresh created announced labels refuse).run actions
  rw [sound.wire] at there
  exact (atHand_takeAll sound.log line.outlet.labels waiting near there).2

/-- A torn frame between two frames, datagrams out of order and repeated, and numbers that wrap. -/
theorem deliveries_of_written_shuffled :
    PacketHeader.size < 10 ∧
      ∃ sender, Sender.create ⟨10, some ⟨"setup"⟩⟩ = .ok sender ∧
        let frame (byte : UInt8) : Frame := { Frame.blank with payload := [byte, 0, byte] }
        let refuse (asked : Nat) : Option TransportError := if asked = 3 then some .closed else none
        let line := (Line.fresh sender ⟨96, 0, 65534⟩ refuse).run
          [.send (frame 1), .send (frame 2), .send (frame 3)]
        let receiver := Receiver.create ⟨some ⟨"setup"⟩, 64⟩
        let received := [0, 2, 0, 1, 1, 3, 4]
        let raws := received.filterMap fun position => line.outlet.wire[position]?
        let delivery : Delivery := .frame {
          payload := [3, 0, 3]
          flags := .none
          version := 0
          descriptor := ⟨"setup"⟩
          formatChanged := false
          timestamp := 0 }
        receiver.pending = .empty ∧ received.IsChain Near ∧
          raws.map some = received.map (fun position => line.outlet.wire[position]?) ∧
          delivery ∈ deliveries ((Inbound.fresh receiver).takeAll raws).1 ∧
          Delivered line.log received delivery := by
  have roomy : PacketHeader.size < 10 := by decide
  refine ⟨roomy, ?_⟩
  obtain ⟨sender, created, onlyWritten⟩ := deliveries_of_written ⟨10, some ⟨"setup"⟩⟩
    ⟨96, 0, 65534⟩ (fun asked => if asked = 3 then some .closed else none) roomy
  refine ⟨sender, created, ?_⟩
  intro frame refuse line receiver received raws delivery
  have near : received.IsChain Near := by decide
  cases created
  have there : raws.map some = received.map (fun position => line.outlet.wire[position]?) := by
    decide +kernel
  have member : delivery ∈ deliveries ((Inbound.fresh receiver).takeAll raws).1 := by
    decide +kernel
  exact ⟨rfl, near, there, member, onlyWritten _ receiver received raws rfl near there _ member⟩

end Line

end FrameLink

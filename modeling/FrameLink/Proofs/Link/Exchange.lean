import FrameLink.Proofs.Link.Loopback
import FrameLink.Proofs.Link.Refusals
import Mathlib.Data.List.Forall2
import Mathlib.Data.List.Induction

/-!
# Losses cost what they hit

A sender and a reader at the two ends of a loopback link. A frame comes out exactly if none of its
datagrams was lost and, unless it is an event, it has a payload and its version is known: by the
last announcement under it that came with a frame of which nothing was lost (`knownBy`). So it is
for whatever was lost at whatever time, and however writes and reads take turns
(`Exchange.deliveries_of_intact`).
-/

namespace FrameLink

open FrameLink.Receiver (Answer Kept)
open FrameLink.Sender (greatestFrame)
open FrameLink.Transport (Loopback)

/-! ## What comes out -/

/-- A frame that was written, with the number of its first datagram, and the numbers that were to be
lost by then. -/
structure Sending where
  attempt : Attempt
  first : UInt16
  lost : List UInt16
  deriving Repr

namespace Sending

/-- Whether a frame was written and none of its datagrams was lost. -/
def Intact (sending : Sending) : Prop :=
  sending.attempt.written = true ∧
    ∀ index < sending.attempt.sent, sending.first + UInt16.ofNat index ∉ sending.lost

instance (sending : Sending) : Decidable sending.Intact :=
  inferInstanceAs (Decidable (_ ∧ _))

/-- The number of datagrams of frames. -/
def datagrams (sent : List Sending) : Nat :=
  (sent.map (·.attempt.sent)).sum

theorem datagrams_concat (sent : List Sending) (sending : Sending) :
    datagrams (sent ++ [sending]) = datagrams sent + sending.attempt.sent := by
  simp [datagrams]

/-- The version of a frame. -/
def version (sending : Sending) : FormatVersion :=
  sending.attempt.sender.current

/-- What one learns of a version from a frame: the format that it inlines, where it is intact. -/
def teaches (sending : Sending) (version : FormatVersion) : Option FormatDescriptor :=
  if sending.Intact ∧ sending.version = version then sending.attempt.sender.due else none

/-- Whether a frame comes out, where this is known of its version. -/
def ComesOut (sending : Sending) (known : Option FormatDescriptor) : Prop :=
  sending.Intact ∧
    (sending.attempt.frame.event ≠ none ∨ sending.attempt.frame.payload ≠ [] ∧ known ≠ none)

instance (sending : Sending) (known : Option FormatDescriptor) :
    Decidable (sending.ComesOut known) :=
  inferInstanceAs (Decidable (_ ∧ _))

/-- A frame with what is known of its version, where it comes out. -/
def arrival (sending : Sending) (known : Option FormatDescriptor) :
    List (Sending × Option FormatDescriptor) :=
  if sending.ComesOut known then [(sending, known)] else []

end Sending

/-- The format known by a version: that of the last frame that teaches one, and where none does,
that of the session under version 0. -/
def knownBy (initial : Option FormatDescriptor) (sent : List Sending) (version : FormatVersion) :
    Option FormatDescriptor :=
  (sent.reverse.findSome? (·.teaches version)).or
    (if version = .outOfBand then initial else none)

/-- The frames that come out behind the earlier ones, each with what is known of its version. -/
def arrivalsBehind (initial : Option FormatDescriptor) (earlier : List Sending) :
    List Sending → List (Sending × Option FormatDescriptor)
  | [] => []
  | sending :: rest =>
      sending.arrival (knownBy initial (earlier ++ [sending]) sending.version) ++
        arrivalsBehind initial (earlier ++ [sending]) rest

/-- The frames that come out, each with what is known of its version. -/
def arrivals (initial : Option FormatDescriptor) (sent : List Sending) :
    List (Sending × Option FormatDescriptor) :=
  arrivalsBehind initial [] sent

/-- Whether a frame comes out as it was written, under the format known by its version. -/
def Arrives (arrival : Sending × Option FormatDescriptor) (delivery : Delivery) : Prop :=
  arrival.1.attempt.frame.Own arrival.1.version arrival.2 [delivery]

section History

variable (initial : Option FormatDescriptor) (sent : List Sending) (sending : Sending)

theorem knownBy_concat (version : FormatVersion) :
    knownBy initial (sent ++ [sending]) version =
      (sending.teaches version).or (knownBy initial sent version) := by
  rw [knownBy, knownBy, List.reverse_append, List.reverse_singleton, List.singleton_append,
    List.findSome?_cons]
  cases sending.teaches version with
  | none => rfl
  | some descriptor => rfl

theorem arrivalsBehind_append (earlier rest : List Sending) :
    arrivalsBehind initial earlier (sent ++ rest) =
      arrivalsBehind initial earlier sent ++ arrivalsBehind initial (earlier ++ sent) rest := by
  induction sent generalizing earlier with
  | nil => rw [List.append_nil, List.nil_append, arrivalsBehind, List.nil_append]
  | cons first sent ih =>
      rw [List.cons_append, arrivalsBehind, arrivalsBehind, ih, List.append_assoc,
        List.append_assoc, List.singleton_append]

/-- One more frame comes out behind the others, or changes nothing. -/
theorem arrivals_concat :
    arrivals initial (sent ++ [sending]) =
      arrivals initial sent ++
        sending.arrival (knownBy initial (sent ++ [sending]) sending.version) := by
  rw [arrivals, arrivalsBehind_append, List.nil_append, arrivalsBehind, arrivalsBehind,
    List.append_nil]
  rfl

end History

/-! ## One frame -/

section Frame

variable {sending : Sending} {progress : Progress} {lost : Nat → Bool} {most : Nat}

/-- An intact frame with some packet comes whole to an end that holds nothing. -/
theorem Sending.whole_iff (sound : sending.attempt.Sound) (untorn : progress.torn = false)
    (kept : Kept lost progress.position sending.attempt.sent ↔
      ∀ index < sending.attempt.sent, sending.first + UInt16.ofNat index ∉ sending.lost)
    (fits : sending.attempt.written = true → sending.attempt.bytes.length ≤ most) :
    progress.Whole lost most sending.attempt ↔ sending.Intact ∧ sending.attempt.sent ≠ 0 := by
  rw [Progress.whole_iff sound fits, kept, Intact]
  constructor
  · rintro ⟨written, somePacket, _, missed⟩
    exact ⟨⟨written, missed⟩, somePacket⟩
  · rintro ⟨⟨written, missed⟩, somePacket⟩
    exact ⟨written, somePacket, untorn, missed⟩

/-- What an end knows behind a frame. -/
theorem Sending.lookup_after (sound : sending.attempt.Sound)
    (whole : progress.Whole lost most sending.attempt ↔
      sending.Intact ∧ sending.attempt.sent ≠ 0) (version : FormatVersion) :
    (progress.after lost most sending.attempt).heard.lookup version =
      (sending.teaches version).or (progress.heard.lookup version) := by
  by_cases arrived : progress.Whole lost most sending.attempt
  · have intact := (whole.1 arrived).1
    rw [Progress.heard_after_of_whole arrived, Sender.lookup_teach_eq, teaches]
    simp only [intact, true_and]
    rfl
  · rw [Progress.heard_after_of_not_whole arrived]
    have nothing : sending.teaches version = none := by
      rw [teaches]
      split
      next inlines =>
        by_contra due
        have someByte : sending.attempt.bytes ≠ [] := by
          intro empty
          exact due (Sender.serialize_eq_nil empty).1
        have somePacket := (sound.sent_ne_zero_iff inlines.1.1).2 someByte
        exact arrived (whole.2 ⟨inlines.1, somePacket⟩)
      next => rfl
    rw [nothing, Option.none_or]

/-- An intact frame is read by what it teaches, and else by what was known of its version. -/
theorem Sending.reads_of_intact (intact : sending.Intact) :
    progress.reads sending.attempt =
      (sending.teaches sending.version).or (progress.heard.lookup sending.version) := by
  rw [Progress.reads, Sender.lookup_teach_eq, teaches, if_pos rfl, if_pos ⟨intact, rfl⟩]
  rfl

/-- A frame comes out of an end exactly if it has something to show and comes out at all. -/
theorem Sending.deliveries_of_answers {answers : List Answer} (sound : sending.attempt.Sound)
    (whole : progress.Whole lost most sending.attempt ↔
      sending.Intact ∧ sending.attempt.sent ≠ 0)
    (answered : progress.Answers lost most sending.attempt answers)
    {known : Option FormatDescriptor}
    (read : sending.Intact → progress.reads sending.attempt = known) :
    List.Forall₂ Arrives (sending.arrival known) (deliveries answers) := by
  rw [arrival]
  split
  next out =>
    obtain ⟨intact, carries⟩ := out
    have someByte : sending.attempt.bytes ≠ [] := Sender.serialize_ne_nil (carries.imp id And.left)
    have somePacket := (sound.sent_ne_zero_iff intact.1).2 someByte
    have own := (answered.own_iff carries).2 ⟨whole.2 ⟨intact, somePacket⟩, .inr (read intact)⟩
    obtain ⟨delivery, single⟩ := own.exists_eq_singleton
    rw [single] at own ⊢
    exact .cons own .nil
  next stays =>
    unfold Progress.Answers at answered
    split at answered
    next arrived =>
      have intact := (whole.1 arrived).1
      obtain ⟨changed, rfl⟩ := answered
      have noEvent : sending.attempt.frame.event = none := by
        by_contra event
        exact stays ⟨intact, .inl event⟩
      rw [deliveries_of_last]
      by_cases empty : sending.attempt.frame.payload = []
      · rw [Frame.verdict_of_empty noEvent empty]
        exact .nil
      · have unknown : progress.reads sending.attempt = none := by
          rw [read intact]
          by_contra informed
          exact stays ⟨intact, .inr ⟨empty, informed⟩⟩
        rw [Frame.verdict_of_unknown noEvent empty unknown]
        exact .nil
    next =>
      rw [deliveries_of_idle answered]
      exact .nil

end Frame

/-! ## Runs -/

/-- What can be done with the two ends of a link. -/
inductive Move where
  | announce (descriptor : FormatDescriptor)
  | write (frame : Frame)
  | lose (sequences : List UInt16)
  | read
  deriving DecidableEq, Repr

/-- A sender and a reader at the ends of a link, with what was asked for, what was written and what
reads came to. -/
structure Exchange where
  sender : Sender
  reader : Reader
  link : Loopback
  /-- The numbers to lose. -/
  losing : List UInt16
  sent : List Sending
  results : List (Except FrameError Delivery)
  deriving Repr

namespace Exchange

/-- Two ends that nothing was done with. -/
def fresh (sender : Sender) (reader : Reader) : Exchange :=
  ⟨sender, reader, .fresh, [], [], []⟩

/-- The record of a write. Its datagrams are counted from those of the frames before, and what is to
be lost is what was asked for, whatever the link makes of it. -/
def sending (exchange : Exchange) (frame : Frame) : Sending where
  attempt := ⟨exchange.sender.adopt frame, frame, (exchange.sender.write frame exchange.link).1⟩
  first := UInt16.ofNat (Sending.datagrams exchange.sent)
  lost := exchange.losing

/-- Does one thing. -/
def perform (exchange : Exchange) : Move → Exchange
  | .announce descriptor => { exchange with sender := exchange.sender.announce descriptor }
  | .write frame => { exchange with
      sender := (exchange.sender.write frame exchange.link).2.1
      link := (exchange.sender.write frame exchange.link).2.2
      sent := exchange.sent ++ [exchange.sending frame] }
  | .lose sequences => { exchange with
      link := exchange.link.lose sequences
      losing := exchange.losing ++ sequences }
  | .read => { exchange with
      reader := (exchange.reader.read exchange.link).2.1
      link := (exchange.reader.read exchange.link).2.2
      results := exchange.results ++ [(exchange.reader.read exchange.link).1] }

/-- Does one thing after the other. -/
def run (exchange : Exchange) (moves : List Move) : Exchange :=
  moves.foldl perform exchange

/-- How a read ends where nothing is under way. -/
def nothingYet : FrameError :=
  .transport (.io (.ofKind .wouldBlock))

/-- A link without failures that has done what was asked for. -/
structure Obeys (exchange : Exchange) : Prop where
  sound : exchange.link.Sound
  sent : exchange.link.sent = Sending.datagrams exchange.sent
  lost : exchange.link.lost = exchange.losing

/-- What the link loses of a frame is told by its record. -/
theorem Obeys.kept_iff {exchange : Exchange} (obeys : exchange.Obeys) (frame : Frame)
    (count : Nat) :
    Kept exchange.link.loses exchange.link.sent count ↔
      ∀ index < count,
        (exchange.sending frame).first + UInt16.ofNat index ∉ (exchange.sending frame).lost := by
  rw [obeys.sound.kept_iff, obeys.sound.next, Loopback.sequence_labels, obeys.sent, obeys.lost]
  rfl

/-- What the receiving end will make of all that is under way. -/
def ahead (exchange : Exchange) : List Answer × Inbound :=
  (Inbound.mk exchange.link.tracker exchange.reader.receiver).takeAll exchange.link.queue

/-- A receiver that was told of every loss and has taken all that was sent. -/
structure Level (initial : Option FormatDescriptor) (most : Nat) (exchange : Exchange)
    (receiver : Receiver) : Prop where
  bound : receiver.config.maxFrameSize = most
  nothing : receiver.pending.toBytes = []
  known : ∀ version, receiver.cache.lookup version = knownBy initial exchange.sent version
  follows : Follows exchange.link.loses Loopback.labels exchange.link.sent exchange.ahead.2 receiver

/-- What such a receiver knows. -/
def progress (exchange : Exchange) (receiver : Receiver) : Progress :=
  ⟨exchange.link.sent, false, receiver.cache⟩

/-- What was read and what is still under way are the frames that come out. -/
structure InOrder (initial : Option FormatDescriptor) (most : Nat) (exchange : Exchange) :
    Prop where
  obeys : exchange.Obeys
  level : ∃ receiver, exchange.Level initial most receiver
  outcome : List.Forall₂ Arrives (arrivals initial exchange.sent)
    (exchange.results.filterMap Except.toOption ++ deliveries exchange.ahead.1)
  results : ∀ result ∈ exchange.results,
    (∃ delivery, result = .ok delivery) ∨ result = .error nothingYet
  written : ∀ sending ∈ exchange.sent,
    sending.attempt.written = true ↔ sending.attempt.bytes.length ≤ greatestFrame

section Step

variable {initial : Option FormatDescriptor} {most : Nat} {exchange : Exchange}

theorem InOrder.announce (inOrder : exchange.InOrder initial most) (descriptor : FormatDescriptor) :
    (exchange.perform (.announce descriptor)).InOrder initial most := by
  obtain ⟨receiver, level⟩ := inOrder.level
  exact {
    obeys := ⟨inOrder.obeys.sound, inOrder.obeys.sent, inOrder.obeys.lost⟩
    level := ⟨receiver, level.bound, level.nothing, level.known, level.follows⟩
    outcome := inOrder.outcome
    results := inOrder.results
    written := inOrder.written }

/-- What is lost from now on was not lost before. -/
theorem InOrder.lose (inOrder : exchange.InOrder initial most) (sequences : List UInt16) :
    (exchange.perform (.lose sequences)).InOrder initial most := by
  obtain ⟨receiver, level⟩ := inOrder.level
  have still : ∀ position, exchange.link.loses position = true →
      (exchange.link.lose sequences).loses position = true := by
    intro position gone
    rw [Loopback.loses, List.contains_iff_mem] at gone ⊢
    exact List.mem_append_left _ gone
  have sound := inOrder.obeys.sound
  exact {
    obeys := {
      sound := ⟨sound.next, sound.noFailure, sound.sinkOpen, sound.sourceOpen⟩
      sent := inOrder.obeys.sent
      lost := congrArg (· ++ sequences) inOrder.obeys.lost }
    level := ⟨receiver, level.bound, level.nothing, level.known, level.follows.mono still⟩
    outcome := inOrder.outcome
    results := inOrder.results
    written := inOrder.written }

/-- A read takes the first of what is under way, where there is something. -/
theorem InOrder.read (inOrder : exchange.InOrder initial most) :
    (exchange.perform .read).InOrder initial most := by
  obtain ⟨receiver, level⟩ := inOrder.level
  obtain ⟨result, after, behind, rest, read, sameEnd, outcome⟩ :=
    (exchange.link.queued inOrder.obeys.sound.sinkOpen).read exchange.reader exchange.link.tracker
      exchange.link.queue
  have performed : exchange.perform .read = { exchange with
      reader := after
      link := { exchange.link with tracker := behind, queue := rest }
      results := exchange.results ++ [result] } := by
    rw [perform, show exchange.reader.read exchange.link = _ from read]
  rw [performed]
  constructor
  · have sound := inOrder.obeys.sound
    exact {
      sound := ⟨sound.next, sound.noFailure, sound.sinkOpen, sound.sourceOpen⟩
      sent := inOrder.obeys.sent
      lost := inOrder.obeys.lost }
  · refine ⟨receiver, level.bound, level.nothing, level.known, ?_⟩
    rw [ahead, sameEnd]
    exact level.follows
  · have still := inOrder.outcome
    rw [List.filterMap_append, List.append_assoc]
    rcases outcome with ⟨delivery, rfl, first⟩ | ⟨rfl, rfl, pending⟩
    · rw [ahead, first] at still
      exact still
    · rw [ahead, pending] at still
      exact still
  · intro other member
    rcases List.mem_append.1 member with earlier | last
    · exact inOrder.results other earlier
    · rw [List.mem_singleton.1 last]
      rcases outcome with ⟨delivery, rfl, _⟩ | ⟨rfl, _, _⟩
      · exact .inl ⟨delivery, rfl⟩
      · exact .inr rfl
  · exact inOrder.written

/-- What a write leaves behind is told by its record. -/
theorem perform_write (link : exchange.link.Sound) (frame : Frame) :
    (exchange.sending frame).attempt.Sound ∧
      ((exchange.sending frame).attempt.written = false →
        (exchange.sending frame).attempt.sent = 0) ∧
      ((exchange.sending frame).attempt.written = true ↔
        (exchange.sending frame).attempt.bytes.length ≤ greatestFrame) ∧
      exchange.perform (.write frame) = { exchange with
        sender := (exchange.sending frame).attempt.after
        link := exchange.link.taken (exchange.sending frame).attempt.packets
        sent := exchange.sent ++ [exchange.sending frame] } := by
  obtain ⟨sound, clean, short, wrote⟩ := link.write exchange.sender frame
  refine ⟨sound, clean, short, ?_⟩
  rw [perform, wrote]
  rfl

/-- What was written arrives behind what was under way. -/
theorem ahead_write (link : exchange.link.Sound) (frame : Frame) :
    let arrived := exchange.ahead.2.takeAll (arriving exchange.link.loses exchange.link.sent
      (Loopback.labels.rawFrom exchange.link.sent (exchange.sending frame).attempt.packets))
    (exchange.perform (.write frame)).ahead = (exchange.ahead.1 ++ arrived.1, arrived.2) := by
  obtain ⟨_, _, _, performed⟩ := perform_write link frame
  rw [performed]
  exact Inbound.takeAll_append _ exchange.link.queue _

/-- A write takes the receiver along, and adds the answers to its frame to what is ahead. -/
theorem Level.write {receiver : Receiver} (level : exchange.Level initial most receiver)
    (obeys : exchange.Obeys) (frame : Frame)
    (fits : (exchange.sending frame).attempt.written = true →
      (exchange.sending frame).attempt.bytes.length ≤ most) :
    (∃ after, (exchange.perform (.write frame)).Level initial most after) ∧
      ∃ answers, (exchange.perform (.write frame)).ahead.1 = exchange.ahead.1 ++ answers ∧
        List.Forall₂ Arrives
          ((exchange.sending frame).arrival (knownBy initial
            (exchange.sent ++ [exchange.sending frame]) (exchange.sending frame).version))
          (deliveries answers) := by
  obtain ⟨sound, clean, _, performed⟩ := perform_write obeys.sound frame
  have held : (exchange.progress receiver).Held most receiver := {
    bound := level.bound
    heard := rfl
    torn_iff := iff_of_false Bool.false_ne_true (not_not_intro level.nothing) }
  have whole : (exchange.progress receiver).Whole exchange.link.loses most
      (exchange.sending frame).attempt ↔ _ :=
    Sending.whole_iff sound rfl (obeys.kept_iff frame _) fits
  have learned (version : FormatVersion) := by
    have learned := Sending.lookup_after sound whole version
    rw [progress, level.known, ← knownBy_concat] at learned
    exact learned
  have plain : ∀ packet ∈ (exchange.sending frame).attempt.packets, packet.Plain :=
    fun packet member => Receiver.plain_packetsFrom _ _ _ _ packet (List.mem_of_mem_take member)
  -- The receiver takes the packets at once, and the end of the link follows with the same answers.
  obtain ⟨after, answered⟩ := held.after exchange.link.loses sound
  obtain ⟨same, follows⟩ := level.follows.takeAll exchange.link.told_loses plain
  rw [ahead_write obeys.sound frame]
  constructor
  · refine ⟨_, after.bound, ?_, ?_, ?_⟩
    · by_contra heldBytes
      have torn := after.torn_iff.2 heldBytes
      rw [Progress.torn_after rfl clean] at torn
      cases torn
    · intro version
      rw [after.heard, performed]
      exact learned version
    · rw [ahead_write obeys.sound frame, performed]
      exact follows
  · refine ⟨_, rfl, ?_⟩
    rw [same]
    apply Sending.deliveries_of_answers sound whole answered
    intro intact
    rw [Sending.reads_of_intact intact, progress, level.known, knownBy_concat]

/-- A frame that was written comes out behind the others, or not at all. -/
theorem InOrder.write (inOrder : exchange.InOrder initial most) (frame : Frame)
    (fits : (exchange.sending frame).attempt.written = true →
      (exchange.sending frame).attempt.bytes.length ≤ most) :
    (exchange.perform (.write frame)).InOrder initial most := by
  obtain ⟨receiver, level⟩ := inOrder.level
  obtain ⟨sound, _, short, performed⟩ := perform_write inOrder.obeys.sound frame
  obtain ⟨after, answers, ahead, comesOut⟩ := level.write inOrder.obeys frame fits
  constructor
  · rw [performed]
    exact {
      sound := inOrder.obeys.sound.taken _
      sent := by
        rw [Sending.datagrams_concat, ← inOrder.obeys.sent, ← sound.length_packets]
        rfl
      lost := inOrder.obeys.lost }
  · exact after
  · rw [ahead, performed, deliveries_append, ← List.append_assoc, arrivals_concat]
    exact List.rel_append inOrder.outcome comesOut
  · rw [performed]
    exact inOrder.results
  · rw [performed]
    intro sending member
    rcases List.mem_append.1 member with earlier | last
    · exact inOrder.written sending earlier
    · rw [List.mem_singleton.1 last]
      exact short

end Step

/-- Two ends that nothing was done with are in order. -/
theorem inOrder_fresh (sender : Sender) (initial : Option FormatDescriptor) (most : Nat) :
    (fresh sender (.create ⟨initial, most⟩)).InOrder initial most where
  obeys := ⟨Loopback.sound_fresh, rfl, rfl⟩
  level := by
    refine ⟨.create ⟨initial, most⟩, rfl, rfl, ?_, .fresh⟩
    intro version
    exact FormatCache.lookup_seeded initial version
  outcome := .nil
  results := List.forall_mem_nil _
  written := List.forall_mem_nil _

theorem run_concat (exchange : Exchange) (moves : List Move) (move : Move) :
    exchange.run (moves ++ [move]) = (exchange.run moves).perform move := by
  rw [run, run, List.foldl_append]
  rfl

/-- What was written stays written. -/
theorem mem_sent_perform {exchange : Exchange} {sending : Sending} (move : Move)
    (earlier : sending ∈ exchange.sent) : sending ∈ (exchange.perform move).sent := by
  cases move with
  | announce descriptor => exact earlier
  | write frame => exact List.mem_append_left _ earlier
  | lose sequences => exact earlier
  | read => exact earlier

/-- Whatever is done with the two ends, they stay in order as long as the frames fit. -/
theorem InOrder.run {initial : Option FormatDescriptor} {most : Nat} {exchange : Exchange}
    (inOrder : exchange.InOrder initial most) (moves : List Move)
    (fits : ∀ sending ∈ (exchange.run moves).sent,
      sending.attempt.written = true → sending.attempt.bytes.length ≤ most) :
    (exchange.run moves).InOrder initial most := by
  induction moves using List.reverseRecOn with
  | nil => exact inOrder
  | append_singleton moves move ih =>
      rw [run_concat] at fits ⊢
      have before := ih fun sending member => fits sending (mem_sent_perform move member)
      cases move with
      | announce descriptor => exact before.announce descriptor
      | write frame =>
          apply before.write frame
          exact fits _ (List.mem_append_right _ List.mem_cons_self)
      | lose sequences => exact before.lose sequences
      | read => exact before.read

/-- A lost datagram costs the frame that it belongs to, and no other. For every run of a sender and
a reader over a loopback link, whatever is named, written and lost in whatever order, and whenever
it is read: what was read, and behind it what reading on will bring, are exactly the frames that
come out, each once, in the order of their writes, as they were written, and under the format known
by their version. A read that brings nothing tells that nothing is under way. -/
theorem deliveries_of_intact (config : SenderConfig) (most : Nat)
    (roomy : PacketHeader.size < config.mtu) :
    ∃ sender, Sender.create config = .ok sender ∧
      ∀ moves,
        let exchange := (fresh sender (.create ⟨config.initial, most⟩)).run moves
        (∀ sending ∈ exchange.sent,
          sending.attempt.written = true → sending.attempt.bytes.length ≤ most) →
        (∀ sending ∈ exchange.sent,
          sending.attempt.written = true ↔ sending.attempt.bytes.length ≤ greatestFrame) ∧
        (∀ result ∈ exchange.results,
          (∃ delivery, result = .ok delivery) ∨ result = .error nothingYet) ∧
        ∃ others,
          Reads exchange.reader exchange.link others nothingYet ∧
          List.Forall₂ Arrives (arrivals config.initial exchange.sent)
            (exchange.results.filterMap Except.toOption ++ others) := by
  obtain ⟨sender, created, _⟩ := Sender.create_of_roomy roomy
  refine ⟨sender, created, ?_⟩
  intro moves exchange fits
  have inOrder : exchange.InOrder config.initial most :=
    (inOrder_fresh sender config.initial most).run moves fits
  refine ⟨inOrder.written, inOrder.results, deliveries exchange.ahead.1, ?_, inOrder.outcome⟩
  exact (exchange.link.queued inOrder.obeys.sound.sinkOpen).reads exchange.reader
    exchange.link.tracker exchange.link.queue

/-- The second datagram of an announcement is lost. Neither that frame comes out nor the next one
of its version; the frame behind them, with an announcement of its own, does. -/
theorem deliveries_of_intact_behind_loss :
    PacketHeader.size < 10 ∧
      ∃ sender, Sender.create ⟨10, some ⟨"setup"⟩⟩ = .ok sender ∧
        let moves : List Move := [
          .lose [1],
          .write { Frame.blank with payload := [1], descriptor := some ⟨"lost"⟩ },
          .read,
          .write { Frame.blank with payload := [2] },
          .write { Frame.blank with payload := [3], descriptor := some ⟨"next"⟩ },
          .read]
        let exchange := (fresh sender (.create ⟨some ⟨"setup"⟩, 64⟩)).run moves
        (arrivals (some ⟨"setup"⟩) exchange.sent).map
            (fun arrival => (arrival.1.attempt.frame.payload, arrival.2)) =
            [([3], some ⟨"next"⟩)] ∧
          ∃ others,
            Reads exchange.reader exchange.link others nothingYet ∧
            List.Forall₂ Arrives (arrivals (some ⟨"setup"⟩) exchange.sent)
              (exchange.results.filterMap Except.toOption ++ others) := by
  have roomy : PacketHeader.size < 10 := by decide
  obtain ⟨sender, created, comesOut⟩ := deliveries_of_intact ⟨10, some ⟨"setup"⟩⟩ 64 roomy
  refine ⟨roomy, sender, created, ?_⟩
  intro moves exchange
  have whole := comesOut moves
  cases created
  obtain ⟨_, _, outcome⟩ := whole (by decide +kernel)
  exact ⟨by decide +kernel, outcome⟩

end Exchange

end FrameLink

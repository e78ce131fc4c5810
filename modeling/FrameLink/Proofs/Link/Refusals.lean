import FrameLink.Proofs.Link.Losses
import FrameLink.Proofs.Stream.Reads

/-!
# Frames behind refused datagrams

A write that is refused behind its first datagram leaves the front of its frame on the wire, and no
gap tells the receiver so. The next frame meets that front and is dropped with it, together with
the announcement that it may have carried. So a frame that was written is read exactly where the
wire is not torn in front of it and its announcement came through (`Line.read_iff`).
-/

namespace FrameLink

open FrameLink.Receiver (Answer Idle Kept)
open FrameLink.Transport (TransportError)

/-- What is read of a frame that comes out as it was written, under a version and this format. -/
def Frame.Own (frame : Frame) (version : FormatVersion) (named : Option FormatDescriptor)
    (own : List Delivery) : Prop :=
  match frame.event with
  | some event => own = [.event event]
  | none => ∃ descriptor changed, named = some descriptor ∧
      own = [.frame {
        payload := frame.payload
        flags := frame.flags
        version
        descriptor
        formatChanged := changed
        timestamp := frame.timestamp }]

/-- A frame that comes out is one delivery. -/
theorem Frame.Own.exists_eq_singleton {frame : Frame} {version : FormatVersion}
    {named : Option FormatDescriptor} {own : List Delivery} (right : frame.Own version named own) :
    ∃ delivery, own = [delivery] := by
  unfold Frame.Own at right
  split at right
  next event _ => exact ⟨.event event, right⟩
  next =>
    obtain ⟨_, _, _, same⟩ := right
    exact ⟨_, same⟩

/-! ## Deliveries of the account -/

theorem deliveries_of_idle {answers : List Answer} (idle : ∀ answer ∈ answers, Idle answer) :
    deliveries answers = [] := by
  rw [deliveries, List.filterMap_eq_nil_iff]
  intro answer member
  cases idle answer member with
  | nothing => rfl
  | astray expected got => rfl
  | oversized size most => rfl

theorem deliveries_of_quiet (quiet : Nat) : deliveries (List.replicate quiet (.ok none)) = [] := by
  apply deliveries_of_idle
  intro answer member
  rw [List.eq_of_mem_replicate member]
  exact .nothing

theorem deliveries_of_last (quiet : Nat) (answer : Answer) :
    deliveries (List.replicate quiet (.ok none) ++ [answer]) = (delivered? answer).toList := by
  rw [deliveries_append, deliveries_of_quiet, List.nil_append, deliveries_cons]
  cases delivered? answer with
  | none => rfl
  | some delivery => rfl

namespace Progress

variable {progress : Progress} {lost : Nat → Bool} {most : Nat} {attempt : Attempt}
variable {answers : List Answer}

/-- A frame comes out as it was written where it comes whole, and is an event or read under the
right format. -/
theorem Answers.own_iff (answered : progress.Answers lost most attempt answers)
    {named : Option FormatDescriptor}
    (carries : attempt.frame.event ≠ none ∨ attempt.frame.payload ≠ [] ∧ named ≠ none) :
    attempt.frame.Own attempt.sender.current named (deliveries answers) ↔
      progress.Whole lost most attempt ∧
        (attempt.frame.event ≠ none ∨ progress.reads attempt = named) := by
  unfold Answers at answered
  split at answered
  next whole =>
    obtain ⟨changed, rfl⟩ := answered
    rw [deliveries_of_last]
    cases carried : attempt.frame.event with
    | some event =>
        rw [Frame.verdict_of_event carried]
        simp [Frame.Own, carried, whole, delivered?]
    | none =>
        obtain ⟨someByte, known⟩ := carries.resolve_left (not_not_intro carried)
        cases read : progress.reads attempt with
        | none =>
            rw [Frame.verdict_of_unknown carried someByte read]
            have other : ¬(none = named) := fun same => known same.symm
            simp [Frame.Own, carried, delivered?, other]
        | some descriptor =>
            rw [Frame.verdict_of_known carried someByte read]
            simp only [Frame.Own, carried, delivered?, Option.toList, whole, true_and,
              ne_eq, not_true_eq_false, false_or]
            constructor
            · rintro ⟨right, changed, same, own⟩
              cases own
              exact same.symm
            · intro same
              exact ⟨descriptor, changed, same.symm, rfl⟩
  next part =>
    rw [deliveries_of_idle answered]
    refine iff_of_false ?_ (fun both => part both.1)
    unfold Frame.Own
    split
    next => simp
    next =>
      rintro ⟨_, _, _, own⟩
      cases own

end Progress

/-- A frame that was written without losses comes whole where it fits and nothing torn is ahead. -/
theorem Attempt.Sound.whole_iff {attempt : Attempt} (sound : attempt.Sound) (progress : Progress)
    {most : Nat} (written : attempt.written = true) (someByte : attempt.bytes ≠ [])
    (fits : attempt.bytes.length ≤ most) :
    progress.Whole (fun _ => false) most attempt ↔ progress.torn = false := by
  have somePacket := (sound.sent_ne_zero_iff written).2 someByte
  rw [Progress.whole_iff sound fun _ => fits]
  constructor
  · rintro ⟨_, _, untorn, _⟩
    exact untorn
  · intro untorn
    exact ⟨written, somePacket, untorn, fun _ _ => rfl⟩

/-- A write that tears nothing leaves the receiver informed. -/
theorem Attempt.Sound.informed_after {attempt : Attempt} (sound : attempt.Sound)
    {progress : Progress} {most : Nat} (untorn : progress.torn = false)
    (coherent : attempt.sender.Coherent) (agrees : attempt.sender.Agrees progress.heard)
    (clean : if attempt.written then attempt.bytes.length ≤ most else attempt.sent = 0) :
    (progress.after (fun _ => false) most attempt).torn = false ∧
      attempt.after.Agrees (progress.after (fun _ => false) most attempt).heard := by
  constructor
  · apply Progress.torn_after untorn
    intro refused
    rw [refused, if_neg Bool.false_ne_true] at clean
    exact clean
  rw [Attempt.after]
  cases written : attempt.written with
  | false =>
      rw [written, if_neg Bool.false_ne_true] at clean
      rw [if_neg Bool.false_ne_true,
        Progress.heard_after_of_not_whole (fun whole => whole.1.1 clean)]
      exact agrees
  | true =>
      rw [written, if_pos rfl] at clean
      rw [if_pos rfl]
      by_cases someByte : attempt.bytes = []
      · have noPacket : attempt.sent = 0 := by
          by_contra somePacket
          exact (sound.sent_ne_zero_iff written).1 somePacket someByte
        obtain ⟨nothingDue, _, _⟩ := Sender.serialize_eq_nil someByte
        rw [Progress.heard_after_of_not_whole (fun whole => whole.1.1 noPacket)]
        exact fun _ => agrees nothingDue
      · have whole := (sound.whole_iff progress written someByte clean).2 untorn
        rw [Progress.heard_after_of_whole whole]
        exact fun _ => Sender.lookup_teach coherent agrees

namespace Line

/-- A reader of all that went out reads of the next frame what its receiver delivers of it. -/
theorem Sound.reads_send {initial : Option FormatDescriptor} {actions : List Action} {line : Line}
    (sound : line.Sound initial actions) (most : Nat) (frame : Frame) :
    ∃ earlier,
      Reads (Reader.create ⟨initial, most⟩) (Inlet.mk .fresh line.outlet.wire) earlier
        (.transport .closed) ∧
      Reads (Reader.create ⟨initial, most⟩)
        (Inlet.mk .fresh (line.perform (.send frame)).outlet.wire)
        (earlier ++
          deliveries (line.answersTo (.create ⟨initial, most⟩) (fun _ => false) frame))
        (.transport .closed) := by
  let inbound := Inbound.fresh (.create ⟨initial, most⟩)
  refine ⟨deliveries (inbound.takeAll line.outlet.wire).1, Reads.queue _ _ _, ?_⟩
  have read := Reads.queue (Reader.create ⟨initial, most⟩) .fresh
    (line.perform (.send frame)).outlet.wire
  have split : (inbound.takeAll (line.perform (.send frame)).outlet.wire).1 =
      (inbound.takeAll line.outlet.wire).1 ++
        line.answersTo (.create ⟨initial, most⟩) (fun _ => false) frame := by
    rw [Line.answersTo, sound.wire_send, List.drop_left, arriving_none, arriving_none,
      Inbound.takeAll_append]
  rw [← deliveries_append, ← split]
  exact read

/-- For every run over a sink that may refuse any datagram, and a reader that takes all the others
in order: a frame that was written and fits comes out as it was written, under the format named
last, exactly where no front of a torn frame is ahead of it and, unless it is an event, the format
that was heard of last under its version is that format. It is answered with a missing format where
none was heard of. -/
theorem read_iff (config : SenderConfig) (most : Nat) (labels : Labels)
    (refuse : Nat → Option TransportError) (roomy : PacketHeader.size < config.mtu) :
    ∃ sender, Sender.create config = .ok sender ∧
      ∀ (before : List Action) (frame : Frame),
        let line := (Line.fresh sender labels refuse).run before
        let attempt := line.sender.attempt frame line.outlet
        let progress := Progress.ofLog (fun _ => false) most config.initial line.log
        let named := lastNamed config.initial (before ++ [.send frame])
        let reader := Reader.create ⟨config.initial, most⟩
        attempt.written = true → attempt.bytes.length ≤ most →
        (frame.event ≠ none ∨ frame.payload ≠ [] ∧ named ≠ none) →
        ∃ earlier own,
          Reads reader (Inlet.mk .fresh line.outlet.wire) earlier (.transport .closed) ∧
          Reads reader (Inlet.mk .fresh (line.perform (.send frame)).outlet.wire) (earlier ++ own)
            (.transport .closed) ∧
          (frame.Own attempt.sender.current named own ↔
            progress.torn = false ∧ (frame.event ≠ none ∨ progress.reads attempt = named)) ∧
          (frame.event = none →
            (.error (.missingFormatVersion attempt.sender.current.val) ∈
                line.answersTo (.create ⟨config.initial, most⟩) (fun _ => false) frame ↔
              progress.torn = false ∧ progress.reads attempt = none)) := by
  obtain ⟨sender, created, _, announced, _, _⟩ := Sender.create_of_roomy roomy
  refine ⟨sender, created, ?_⟩
  intro before frame line attempt progress named reader written fits carries
  have sound : line.Sound config.initial before :=
    (sound_fresh created announced labels refuse).run before
  have recorded : attempt.Sound := (line.sender.write_outlet frame line.outlet).1
  have answered := sound.answersTo sparse_none most frame
  have someByte : attempt.bytes ≠ [] :=
    Sender.serialize_ne_nil (carries.imp id And.left)
  have whole := recorded.whole_iff progress written someByte fits
  obtain ⟨earlier, readEarlier, readAll⟩ := sound.reads_send most frame
  refine ⟨earlier, _, readEarlier, readAll, ?_, ?_⟩
  · rw [← whole]
    exact answered.own_iff carries
  · intro noEvent
    obtain ⟨payload, _⟩ := carries.resolve_left (not_not_intro noEvent)
    rw [← whole]
    exact answered.missing_iff noEvent payload

/-- A write that is refused at its first datagram costs nothing else: the announcement comes with
the next frame. -/
theorem read_iff_rearmed :
    PacketHeader.size < 10 ∧
      ∃ sender, Sender.create ⟨10, none⟩ = .ok sender ∧
        let refused : Frame := { Frame.blank with payload := [1], descriptor := some ⟨"video"⟩ }
        let frame : Frame := { Frame.blank with payload := [2, 3] }
        let refuse (asked : Nat) : Option TransportError := if asked = 0 then some .closed else none
        let line := (Line.fresh sender ⟨96, 0, 0⟩ refuse).run [.send refused]
        let attempt := line.sender.attempt frame line.outlet
        attempt.written = true ∧ attempt.bytes.length ≤ 64 ∧
          ∃ earlier own,
            Reads (Reader.create ⟨none, 64⟩) (Inlet.mk .fresh line.outlet.wire) earlier
              (.transport .closed) ∧
            Reads (Reader.create ⟨none, 64⟩)
              (Inlet.mk .fresh (line.perform (.send frame)).outlet.wire) (earlier ++ own)
              (.transport .closed) ∧
            frame.Own 1 (some ⟨"video"⟩) own := by
  have roomy : PacketHeader.size < 10 := by decide
  obtain ⟨sender, created, behindRefusals⟩ := read_iff ⟨10, none⟩ 64 ⟨96, 0, 0⟩
    (fun asked => if asked = 0 then some .closed else none) roomy
  refine ⟨roomy, sender, created, ?_⟩
  intro refused frame refuse line attempt
  have whole := behindRefusals [.send refused] frame
  cases created
  have written : attempt.written = true := by decide +kernel
  have fits : attempt.bytes.length ≤ 64 := by decide +kernel
  obtain ⟨earlier, own, readEarlier, read, comesOut, _⟩ :=
    whole written fits (.inr ⟨by decide, by decide⟩)
  have version : attempt.sender.current = 1 := by decide +kernel
  have right := comesOut.2 ⟨by decide +kernel, .inr (by decide +kernel)⟩
  rw [version] at right
  exact ⟨written, fits, earlier, own, readEarlier, read, right⟩

/-- A write that is refused at its second datagram costs the next frame, although that one was
written, and with it the announcement, so that the frame behind it is of an unknown format. -/
theorem written_behind_torn_front :
    ∃ sender, Sender.create ⟨10, none⟩ = .ok sender ∧
      let torn : Frame := { Frame.blank with payload := [1, 2, 3], descriptor := some ⟨"v"⟩ }
      let second : Frame := { Frame.blank with payload := [4] }
      let third : Frame := { Frame.blank with payload := [5] }
      let refuse (asked : Nat) : Option TransportError := if asked = 1 then some .closed else none
      let line := (Line.fresh sender ⟨96, 0, 0⟩ refuse).run [.send torn]
      let next := line.perform (.send second)
      (line.sender.attempt second line.outlet).result = .ok 2 ∧
        line.answersTo (.create .default) (fun _ => false) second =
          [.error (.fragmentMismatch 2 0), .error (.fragmentMismatch 0 2)] ∧
        (next.sender.attempt third next.outlet).result = .ok 1 ∧
        next.answersTo (.create .default) (fun _ => false) third =
          [.error (.missingFormatVersion 1)] := by
  refine ⟨_, rfl, ?_⟩
  decide +kernel

/-! ## Runs that tear nothing -/

/-- Every frame that was written fits, and every other one left nothing on the wire. -/
def Untorn (most : Nat) (log : List Attempt) : Prop :=
  ∀ attempt ∈ log, if attempt.written then attempt.bytes.length ≤ most else attempt.sent = 0

/-- A receiver at the end of such a line has no torn front, and knows the format in force unless it
is still due. -/
theorem informed_run {config : SenderConfig} {sender : Sender}
    (created : Sender.create config = .ok sender) (announced : sender.announced = config.initial)
    (labels : Labels) (refuse : Nat → Option TransportError) {most : Nat} {actions : List Action}
    (untorn : Untorn most ((fresh sender labels refuse).run actions).log) :
    let line := (fresh sender labels refuse).run actions
    let progress := Progress.ofLog (fun _ => false) most config.initial line.log
    progress.torn = false ∧ line.sender.Agrees progress.heard := by
  induction actions using List.reverseRecOn with
  | nil => exact ⟨rfl, Sender.agrees_create created⟩
  | append_singleton actions action ih =>
      have sound := (sound_fresh created announced labels refuse).run actions
      rw [run_concat] at untorn ⊢
      cases action with
      | announce descriptor =>
          obtain ⟨whole, agrees⟩ := ih untorn
          exact ⟨whole, agrees.announce descriptor⟩
      | send frame =>
          obtain ⟨recorded, after, _⟩ := Sender.write_outlet
            ((fresh sender labels refuse).run actions).sender frame
            ((fresh sender labels refuse).run actions).outlet
          obtain ⟨whole, agrees⟩ := ih fun attempt member =>
            untorn attempt (List.mem_append_left _ member)
          have last := untorn _ (List.mem_append_right _ List.mem_cons_self)
          intro line progress
          have step : progress = _ := Progress.ofLog_concat _ _ _ _ _
          have sender : line.sender = _ := after
          rw [step, sender]
          exact recorded.informed_after whole (sound.coherent.adopt frame) (agrees.adopt frame) last

/-- For every run that tears nothing: every frame that was written and fits comes out as it was
written, under the format named last. -/
theorem read_of_untorn (config : SenderConfig) (most : Nat) (labels : Labels)
    (refuse : Nat → Option TransportError) (roomy : PacketHeader.size < config.mtu) :
    ∃ sender, Sender.create config = .ok sender ∧
      ∀ (before : List Action) (frame : Frame),
        let line := (Line.fresh sender labels refuse).run before
        let attempt := line.sender.attempt frame line.outlet
        let named := lastNamed config.initial (before ++ [.send frame])
        let reader := Reader.create ⟨config.initial, most⟩
        Untorn most line.log → attempt.written = true → attempt.bytes.length ≤ most →
        (frame.event ≠ none ∨ frame.payload ≠ [] ∧ named ≠ none) →
        ∃ earlier own,
          Reads reader (Inlet.mk .fresh line.outlet.wire) earlier (.transport .closed) ∧
          Reads reader (Inlet.mk .fresh (line.perform (.send frame)).outlet.wire) (earlier ++ own)
            (.transport .closed) ∧
          frame.Own attempt.sender.current named own := by
  obtain ⟨sender, created, _, announced, _, _⟩ := Sender.create_of_roomy roomy
  refine ⟨sender, created, ?_⟩
  intro before frame line attempt named reader untorn written fits carries
  have sound : line.Sound config.initial before :=
    (sound_fresh created announced labels refuse).run before
  have recorded : attempt.Sound := (line.sender.write_outlet frame line.outlet).1
  have someByte : attempt.bytes ≠ [] :=
    Sender.serialize_ne_nil (carries.imp id And.left)
  obtain ⟨whole, agrees⟩ := informed_run created announced labels refuse untorn
  have right : (Progress.ofLog (fun _ => false) most config.initial line.log).reads attempt =
      named := by
    have informed := Sender.lookup_teach (sound.coherent.adopt frame) (agrees.adopt frame)
    exact informed.trans (sound.announced_adopt frame)
  obtain ⟨earlier, readEarlier, readAll⟩ := sound.reads_send most frame
  refine ⟨earlier, _, readEarlier, readAll, ?_⟩
  apply ((sound.answersTo sparse_none most frame).own_iff carries).2
  exact ⟨(recorded.whole_iff _ written someByte fits).2 whole, .inr right⟩

end Line

end FrameLink

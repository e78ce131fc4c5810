import FrameLink.Proofs.Link.Losses

/-!
# The first round of versions

Up to the seventh change no version is handed out twice, so whatever a receiver has heard under a
version is what the sender announced under it (`Sender.FirstRound`). Within the first round no frame
is delivered under a format other than its own, whatever is lost and whatever is refused
(`Line.delivered_format_of_few`).
-/

namespace FrameLink

open FrameLink.Transport (TransportError)

/-- How often a run names a format. -/
def namings (actions : List Action) : Nat :=
  (actions.filterMap Action.descriptor?).length

theorem namings_concat (actions : List Action) (action : Action) :
    namings (actions ++ [action]) = namings actions + action.descriptor?.toList.length := by
  rw [namings, namings, List.filterMap_append, List.length_append]
  cases named : action.descriptor? with
  | none => simp [named]
  | some descriptor => simp [named]

/-- Every version was handed out no more than once, and what was heard under it was announced under
it; the formats were named so many times. -/
structure Sender.FirstRound (sender : Sender) (heard : FormatCache) (named : Nat) : Prop where
  assigned_le : sender.assigned.val ≤ named
  current : sender.current = sender.assigned
  announced : sender.cache.lookup sender.current = sender.announced
  unheard : ∀ version, sender.assigned < version → heard.lookup version = none
  known : ∀ {version descriptor}, heard.lookup version = some descriptor →
    sender.cache.lookup version = some descriptor

namespace Sender.FirstRound

variable {sender : Sender} {heard : FormatCache} {named : Nat}

/-- A change takes a version that nothing was heard under. -/
theorem announce (round : sender.FirstRound heard named) (room : named < 7)
    (descriptor : FormatDescriptor) :
    (sender.announce descriptor).FirstRound heard (named + 1) := by
  unfold Sender.announce
  split
  next =>
    exact {
      assigned_le := Nat.le_succ_of_le round.assigned_le
      current := round.current
      announced := round.announced
      unheard := round.unheard
      known := round.known }
  next =>
    have below : sender.assigned.val < 7 := Nat.lt_of_le_of_lt round.assigned_le room
    have next : sender.assigned.nextInline.val = sender.assigned.val + 1 := by
      rw [FormatVersion.nextInline]
      exact congrArg (· + 1) (Nat.mod_eq_of_lt below)
    have later : sender.assigned < sender.assigned.nextInline := by
      rw [Fin.lt_def, next]
      exact Nat.lt_succ_self _
    constructor
    · rw [next]
      exact Nat.succ_le_succ round.assigned_le
    · rfl
    · rw [FormatCache.lookup_store, if_pos rfl]
    · intro version behind
      exact round.unheard version (Fin.lt_trans later behind)
    · intro version other told
      have fresh : sender.assigned.nextInline ≠ version := by
        intro same
        rw [← same, round.unheard _ later] at told
        cases told
      rw [FormatCache.lookup_store, if_neg fresh]
      exact round.known told

theorem adopt (round : sender.FirstRound heard named) {frame : Frame}
    (room : named + frame.descriptor.toList.length ≤ 7) :
    (sender.adopt frame).FirstRound heard (named + frame.descriptor.toList.length) := by
  unfold Sender.adopt
  cases carried : frame.descriptor with
  | none => exact round
  | some descriptor =>
      rw [carried] at room
      exact round.announce room descriptor

/-- Hearing an announcement keeps what is known true. -/
theorem teach (round : sender.FirstRound heard named) (coherent : sender.Coherent) :
    sender.FirstRound (sender.teach heard) named := by
  unfold Sender.teach
  cases due : sender.due with
  | none => exact round
  | some descriptor =>
      constructor
      · exact round.assigned_le
      · exact round.current
      · exact round.announced
      · intro version behind
        have other : sender.current ≠ version := by
          rw [round.current]
          exact Fin.ne_of_lt behind
        rw [FormatCache.lookup_store, if_neg other]
        exact round.unheard version behind
      · intro version other told
        rw [FormatCache.lookup_store] at told
        split at told
        next same =>
          rw [← same, round.announced, coherent.announced_of_due due]
          exact told
        next => exact round.known told

theorem settled (round : sender.FirstRound heard named) :
    sender.settled.FirstRound heard named where
  assigned_le := round.assigned_le
  current := round.current
  announced := round.announced
  unheard := round.unheard
  known := round.known

/-- A write keeps what is known true. -/
theorem after {attempt : Attempt} {progress : Progress}
    (round : attempt.sender.FirstRound progress.heard named) (coherent : attempt.sender.Coherent)
    (lost : Nat → Bool) (most : Nat) :
    attempt.after.FirstRound (progress.after lost most attempt).heard named := by
  rw [Attempt.after]
  by_cases whole : progress.Whole lost most attempt
  · rw [if_pos whole.2, Progress.heard_after_of_whole whole]
    exact (round.teach coherent).settled
  · rw [Progress.heard_after_of_not_whole whole]
    split
    next => exact round.settled
    next => exact round

/-- What is read under the version in use is the format in force. -/
theorem announced_of_lookup (round : sender.FirstRound heard named) (coherent : sender.Coherent)
    {descriptor : FormatDescriptor}
    (read : (sender.teach heard).lookup sender.current = some descriptor) :
    sender.announced = some descriptor := by
  rw [← round.announced]
  exact (round.teach coherent).known read

theorem create {config : SenderConfig} {sender : Sender}
    (created : Sender.create config = .ok sender) :
    sender.FirstRound (.seeded config.initial) 0 := by
  unfold Sender.create at created
  split at created
  next =>
    cases created
    constructor
    · exact Nat.le_refl 0
    · rfl
    · exact (FormatCache.lookup_seeded _ _).trans (if_pos rfl)
    · intro version behind
      have other : version ≠ FormatVersion.outOfBand := Fin.ne_of_gt behind
      rw [FormatCache.lookup_seeded, if_neg other]
    · intro version descriptor told
      exact told
  next => cases created

end Sender.FirstRound

namespace Line

/-- A run that names few formats stays in the first round, whatever the receiver hears of it. -/
theorem firstRound_run {config : SenderConfig} {sender : Sender}
    (created : Sender.create config = .ok sender) (announced : sender.announced = config.initial)
    (labels : Labels) (refuse : Nat → Option TransportError) (lost : Nat → Bool) (most : Nat)
    {actions : List Action} (few : namings actions ≤ 7) :
    ((fresh sender labels refuse).run actions).sender.FirstRound
      (Progress.ofLog lost most config.initial ((fresh sender labels refuse).run actions).log).heard
      (namings actions) := by
  induction actions using List.reverseRecOn with
  | nil => exact .create created
  | append_singleton actions action ih =>
      rw [namings_concat] at few ⊢
      have round := ih (Nat.le_trans (Nat.le_add_right _ _) few)
      have sound := (sound_fresh created announced labels refuse).run actions
      rw [run_concat]
      cases action with
      | announce descriptor => exact round.announce few descriptor
      | send frame =>
          have coherent := sound.coherent.adopt frame
          have after := (Sender.write_outlet ((fresh sender labels refuse).run actions).sender
            frame ((fresh sender labels refuse).run actions).outlet).2.1
          rw [perform, after, Progress.ofLog_concat]
          exact Sender.FirstRound.after (round.adopt few) coherent lost most

/-- For every run that names no more than seven formats: whatever is lost and whatever is refused,
every frame that is delivered comes under the format named last when it was written. -/
theorem delivered_format_of_few (config : SenderConfig) (most : Nat) (labels : Labels)
    (refuse : Nat → Option TransportError) (lost : Nat → Bool)
    (roomy : PacketHeader.size < config.mtu) (sparse : Sparse lost) :
    ∃ sender, Sender.create config = .ok sender ∧
      ∀ (before : List Action) (frame : Frame),
        namings (before ++ [.send frame]) ≤ 7 →
        let line := (Line.fresh sender labels refuse).run before
        ∀ received,
          .ok (some (.frame received)) ∈
            line.answersTo (.create ⟨config.initial, most⟩) lost frame →
          some received.descriptor = lastNamed config.initial (before ++ [.send frame]) := by
  obtain ⟨sender, created, _, announced, _, _⟩ := Sender.create_of_roomy roomy
  refine ⟨sender, created, ?_⟩
  intro before frame few line received member
  have sound : line.Sound config.initial before :=
    (sound_fresh created announced labels refuse).run before
  rw [namings_concat] at few
  have round := firstRound_run created announced labels refuse lost most
    (Nat.le_trans (Nat.le_add_right _ _) few)
  obtain ⟨_, _, _, read⟩ := (sound.answersTo sparse most frame).of_mem_frame member
  have right := (round.adopt few).announced_of_lookup (sound.coherent.adopt frame) read
  exact right.symm.trans (sound.announced_adopt frame)

end Line

end FrameLink

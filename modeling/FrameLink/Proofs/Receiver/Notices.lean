import FrameLink.Proofs.Link.Line
import FrameLink.Proofs.Receiver.Calls
import Mathlib.Data.List.Induction

/-!
# Notices of a change

A frame comes with a notice where the format in force changes with it. The receiver compares with
the format that it has in force, and not with the one that a caller was shown last (`shown`). The
two differ once a frame that shows nothing but its announcement took the place of the format in
force (`Replaces`), and then a frame can come under another format than the one before without a
notice (`changed_of_delivered`).
-/

namespace FrameLink.Receiver

/-! ## Formats -/

/-- Whether a receiver with a format in force knows its descriptor. -/
def Informed (receiver : Receiver) : Prop :=
  ∀ version, receiver.active = some version →
    ∃ descriptor, receiver.activeDescriptor = some descriptor

theorem activeDescriptor_of_active {receiver : Receiver} {version : FormatVersion}
    (active : receiver.active = some version) :
    receiver.activeDescriptor = receiver.cache.lookup version := by
  rw [activeDescriptor, active, Option.bind_some]

@[simp] theorem active_hear (receiver : Receiver) (version : FormatVersion)
    (descriptor : FormatDescriptor) : (receiver.hear version descriptor).active = receiver.active :=
  rfl

theorem lookup_hear (receiver : Receiver) (version : FormatVersion)
    (descriptor : FormatDescriptor) :
    (receiver.hear version descriptor).cache.lookup version = some descriptor := by
  rw [hear, FormatCache.lookup_store, if_pos rfl]

/-- Nothing but an announcement under the version in force changes the format in force. -/
theorem activeDescriptor_hear (receiver : Receiver) (version : FormatVersion)
    (descriptor : FormatDescriptor) :
    (receiver.hear version descriptor).activeDescriptor =
      if receiver.active = some version then some descriptor else receiver.activeDescriptor := by
  split
  next active => rw [activeDescriptor, active_hear, active, Option.bind_some, lookup_hear]
  next apart =>
    rw [activeDescriptor, activeDescriptor, active_hear]
    cases other : receiver.active with
    | none => rfl
    | some inForce =>
        have different : version ≠ inForce := by
          intro same
          rw [same] at apart
          exact apart other
        rw [Option.bind_some, Option.bind_some, hear, FormatCache.lookup_store, if_neg different]

theorem replaces_some_eq_false_iff {previous descriptor : FormatDescriptor} :
    replaces (some previous) descriptor = false ↔ previous = descriptor := by
  rw [replaces, bne_eq_false_iff_eq]

/-! ## Reading a frame -/

section Reading

variable (receiver : Receiver) (header : PacketHeader) (timestamp : UInt32) (bytes : Bytes)

/-- What stands behind an announcement is shown as a frame under the format known by its version,
or leaves the receiver as it is. -/
theorem deliver_cases (replaced : Bool) :
    (∃ descriptor, receiver.cache.lookup header.version = some descriptor ∧
        deliver receiver header timestamp replaced bytes =
          (.ok (some (.frame {
              payload := bytes
              flags := header.flags
              version := header.version
              descriptor
              formatChanged := (receiver.active != some header.version) || replaced
              timestamp })),
            { receiver with active := some header.version })) ∨
      (deliver receiver header timestamp replaced bytes).2 = receiver ∧
        (∀ received,
          (deliver receiver header timestamp replaced bytes).1 ≠ .ok (some (.frame received))) ∧
        (header.eventKind ≠ .ok none ∨ bytes = [] ∨
          receiver.cache.lookup header.version = none) := by
  have delivers := delivers_deliver receiver header timestamp replaced bytes
  generalize deliver receiver header timestamp replaced bytes = outcome at delivers
  cases delivers with
  | frame _ _ known => exact .inl ⟨_, known, rfl⟩
  | unknownKind named | unreadable named | event named =>
      refine .inr ⟨rfl, ?_, .inl (by simp [named])⟩
      intro received shows
      cases shows
  | nothing _ empty =>
      refine .inr ⟨rfl, ?_, .inr (.inl empty)⟩
      intro received shows
      cases shows
  | missing _ _ unknown =>
      refine .inr ⟨rfl, ?_, .inr (.inr unknown)⟩
      intro received shows
      cases shows

end Reading

section Complete

variable {receiver : Receiver} {header : PacketHeader} {timestamp : UInt32} {bytes : Bytes}
variable {received : ReceivedFrame}

/-- A frame that is shown puts its own format in force. The notice is left out exactly if that is
the format that was in force. -/
theorem complete_of_shown (informed : receiver.Informed)
    (shows : (complete receiver header timestamp bytes).1 = .ok (some (.frame received))) :
    (complete receiver header timestamp bytes).2.active = some received.version ∧
      (complete receiver header timestamp bytes).2.activeDescriptor = some received.descriptor ∧
      (received.formatChanged = false ↔
        receiver.active = some received.version ∧
          receiver.activeDescriptor = some received.descriptor) := by
  rcases complete_cases receiver header timestamp bytes with
    ⟨_, same⟩ | ⟨_, _, same⟩ | ⟨announced, rest, _, _, same⟩
  · rw [same] at shows ⊢
    rcases deliver_cases receiver header timestamp bytes false with
      ⟨descriptor, known, shown⟩ | ⟨_, silent, _⟩
    · rw [shown] at shows ⊢
      cases shows
      refine ⟨rfl, known, ?_⟩
      rw [Bool.or_false, bne_eq_false_iff_eq]
      constructor
      · intro active
        rw [activeDescriptor_of_active active]
        exact ⟨active, known⟩
      · exact And.left
    · exact absurd shows (silent received)
  · rw [same] at shows
    cases shows
  · rw [same] at shows ⊢
    rcases deliver_cases _ header timestamp rest _ with
      ⟨descriptor, known, shown⟩ | ⟨_, silent, _⟩
    · rw [shown] at shows ⊢
      cases shows
      refine ⟨rfl, known, ?_⟩
      rw [lookup_hear] at known
      cases known
      rw [active_hear, Bool.or_eq_false_iff, bne_eq_false_iff_eq]
      apply and_congr_right
      intro active
      obtain ⟨previous, inForce⟩ := informed header.version active
      rw [inForce, ← activeDescriptor_of_active active, inForce, replaces_some_eq_false_iff,
        Option.some_inj]
    · exact absurd shows (silent received)

/-- Whether a frame has nothing to show but its announcement, which takes the place of the format
in force. -/
def ReplacesBy (receiver : Receiver) (header : PacketHeader) (bytes : Bytes)
    (descriptor : FormatDescriptor) : Prop :=
  header.capsInline = true ∧ receiver.active = some header.version ∧
    receiver.activeDescriptor ≠ some descriptor ∧
    ∃ rest, takeDescriptor bytes = .ok (descriptor, rest) ∧
      (header.eventKind ≠ .ok none ∨ rest = [])

/-- A frame that is not shown leaves the version in force alone, and its descriptor too, unless
its announcement takes the place of it. -/
theorem complete_of_silent
    (silent : ∀ received,
      (complete receiver header timestamp bytes).1 ≠ .ok (some (.frame received))) :
    (complete receiver header timestamp bytes).2.active = receiver.active ∧
      ((complete receiver header timestamp bytes).2.activeDescriptor = receiver.activeDescriptor ∨
        ∃ descriptor, receiver.ReplacesBy header bytes descriptor ∧
          (complete receiver header timestamp bytes).2.activeDescriptor = some descriptor) := by
  rcases complete_cases receiver header timestamp bytes with
    ⟨_, same⟩ | ⟨_, _, same⟩ | ⟨descriptor, rest, inline, taken, same⟩
  · rw [same] at silent ⊢
    rcases deliver_cases receiver header timestamp bytes false with
      ⟨_, _, shown⟩ | ⟨alone, _, _⟩
    · rw [shown] at silent
      exact absurd rfl (silent _)
    · rw [alone]
      exact ⟨rfl, .inl rfl⟩
  · rw [same]
    exact ⟨rfl, .inl rfl⟩
  · rw [same] at silent ⊢
    rcases deliver_cases _ header timestamp rest _ with ⟨_, _, shown⟩ | ⟨alone, _, nothing⟩
    · rw [shown] at silent
      exact absurd rfl (silent _)
    · rw [alone]
      refine ⟨rfl, ?_⟩
      rw [activeDescriptor_hear]
      split
      next active =>
        by_cases before : receiver.activeDescriptor = some descriptor
        · exact .inl before.symm
        · refine .inr ⟨descriptor, ⟨inline, active, before, rest, taken, ?_⟩, rfl⟩
          -- The version is known by now, so a payload would have been shown.
          rw [lookup_hear] at nothing
          rcases nothing with event | empty | unknown
          · exact .inl event
          · exact .inr empty
          · cases unknown
      next => exact .inl rfl

end Complete

/-! ## Calls -/

/-- Whether a call reads a frame that has nothing to show but its announcement, which takes the
place of the format in force. -/
def Replaces (receiver : Receiver) (call : Call) (descriptor : FormatDescriptor) : Prop :=
  ∃ header timestamp bytes,
    receiver.call call = complete receiver.discard header timestamp bytes ∧
      receiver.ReplacesBy header bytes descriptor

section Calls

variable {receiver : Receiver} {call : Call} {received : ReceivedFrame}

theorem call_of_shown (informed : receiver.Informed)
    (shows : (receiver.call call).1 = .ok (some (.frame received))) :
    (receiver.call call).2.active = some received.version ∧
      (receiver.call call).2.activeDescriptor = some received.descriptor ∧
      (received.formatChanged = false ↔
        receiver.active = some received.version ∧
          receiver.activeDescriptor = some received.descriptor) := by
  rcases receiver.call_cases call with ⟨rfl, _⟩ | ⟨header, timestamp, bytes, reads⟩ | ⟨_, nothing⟩
  · cases shows
  · have still : receiver.discard.Informed := informed
    rw [reads] at shows ⊢
    exact complete_of_shown still shows
  · exact absurd shows (nothing (.frame received))

theorem call_of_silent (other : call ≠ .reset)
    (silent : ∀ received, (receiver.call call).1 ≠ .ok (some (.frame received))) :
    (receiver.call call).2.active = receiver.active ∧
      ((receiver.call call).2.activeDescriptor = receiver.activeDescriptor ∨
        ∃ descriptor, receiver.Replaces call descriptor ∧
          (receiver.call call).2.activeDescriptor = some descriptor) := by
  rcases receiver.call_cases call with
    ⟨reset, _⟩ | ⟨header, timestamp, bytes, reads⟩ | ⟨⟨bytes, holds⟩, _⟩
  · exact absurd reset other
  · rw [reads] at silent ⊢
    obtain ⟨active, kept | ⟨descriptor, replaces, after⟩⟩ := complete_of_silent silent
    · exact ⟨active, .inl kept⟩
    · exact ⟨active, .inr ⟨descriptor, ⟨header, timestamp, bytes, reads, replaces⟩, after⟩⟩
  · rw [holds]
    exact ⟨rfl, .inl rfl⟩

end Calls

/-! ## What was shown last -/

/-- What is agreed before any frame is shown. -/
def agreed (initial : Option FormatDescriptor) : Option (FormatVersion × FormatDescriptor) :=
  initial.map fun descriptor => (.outOfBand, descriptor)

theorem map_snd_agreed (initial : Option FormatDescriptor) :
    (agreed initial).map Prod.snd = initial := by
  rw [agreed, Option.map_map]
  exact Option.map_id'

/-- What a caller was shown last, once there is another entry. A reset goes back to the setup. -/
def Entry.shows (initial : Option FormatDescriptor)
    (latest : Option (FormatVersion × FormatDescriptor)) (entry : Entry) :
    Option (FormatVersion × FormatDescriptor) :=
  if entry.call = .reset then agreed initial
  else
    match entry.answer with
    | .ok (some (.frame received)) => some (received.version, received.descriptor)
    | _ => latest

/-- The version and the descriptor of the frame that was shown last since the setup or the last
reset, and where none was, those of the setup. -/
def shown (initial : Option FormatDescriptor) (log : List Entry) :
    Option (FormatVersion × FormatDescriptor) :=
  log.foldl (Entry.shows initial) (agreed initial)

/-- Whether an entry neither shows a frame nor resets the receiver. -/
def Entry.Silent (entry : Entry) : Prop :=
  entry.call ≠ .reset ∧ ∀ received, entry.answer ≠ .ok (some (.frame received))

section Shown

variable {initial : Option FormatDescriptor} {log : List Entry} {entry : Entry}

theorem shown_concat :
    shown initial (log ++ [entry]) = entry.shows initial (shown initial log) := by
  rw [shown, List.foldl_append]
  rfl

theorem shown_of_reset (reset : entry.call = .reset) :
    shown initial (log ++ [entry]) = agreed initial := by
  rw [shown_concat, Entry.shows, if_pos reset]

theorem shown_of_frame {received : ReceivedFrame} (other : entry.call ≠ .reset)
    (shows : entry.answer = .ok (some (.frame received))) :
    shown initial (log ++ [entry]) = some (received.version, received.descriptor) := by
  rw [shown_concat, Entry.shows, if_neg other, shows]

theorem shown_of_silent (silent : entry.Silent) :
    shown initial (log ++ [entry]) = shown initial log := by
  rw [shown_concat, Entry.shows, if_neg silent.1]
  split
  next shows => exact absurd shows (silent.2 _)
  next => rfl

/-- A call resets the receiver, shows a frame, or is silent. -/
theorem reset_or_shows_or_silent (entry : Entry) :
    entry.call = .reset ∨
      (entry.call ≠ .reset ∧ ∃ received, entry.answer = .ok (some (.frame received))) ∨
      entry.Silent := by
  by_cases reset : entry.call = .reset
  · exact .inl reset
  · apply Or.inr
    by_cases shows : ∃ received, entry.answer = .ok (some (.frame received))
    · exact .inl ⟨reset, shows⟩
    · exact .inr ⟨reset, fun received answer => shows ⟨received, answer⟩⟩

end Shown

/-! ## Runs -/

/-- At first the format of the setup is in force. -/
theorem activeDescriptor_create (config : ReceiverConfig) :
    (create config).activeDescriptor = config.initial := by
  rw [activeDescriptor, create]
  cases config.initial with
  | none => rfl
  | some descriptor => exact FormatCache.lookup_seeded (some descriptor) .outOfBand

/-- What a receiver has in force, next to what was shown last. -/
structure Minds (config : ReceiverConfig) (log : List Entry) (receiver : Receiver) : Prop where
  setup : receiver.config = config
  active : receiver.active = (shown config.initial log).map Prod.fst
  informed : receiver.Informed

/-- A fresh receiver minds its setup, and shown was nothing else. -/
theorem minds_create {config : ReceiverConfig} {log : List Entry}
    (setup : shown config.initial log = agreed config.initial) :
    Minds config log (create config) where
  setup := rfl
  active := by
    rw [setup, agreed, Option.map_map]
    rfl
  informed := by
    intro version active
    rw [activeDescriptor_create]
    cases initial : config.initial with
    | none =>
        rw [create, initial] at active
        cases active
    | some descriptor => exact ⟨descriptor, rfl⟩

section Step

variable {config : ReceiverConfig} {log : List Entry} {receiver : Receiver}

/-- A reset leaves nothing but the setup. -/
theorem Minds.forgets (minds : Minds config log receiver) {call : Call} (reset : call = .reset) :
    (receiver.call call).2 = create config := by
  rw [reset, Receiver.call, reset_eq_create, minds.setup]

/-- Whatever the next call is, the version in force stays the one that was shown last. -/
theorem Minds.call (minds : Minds config log receiver) (call : Call) :
    Minds config (log ++ [⟨call, (receiver.call call).1⟩]) (receiver.call call).2 := by
  rcases reset_or_shows_or_silent ⟨call, (receiver.call call).1⟩ with
    reset | ⟨other, received, shows⟩ | silent
  · rw [minds.forgets reset]
    exact minds_create (shown_of_reset reset)
  · obtain ⟨active, inForce, _⟩ := call_of_shown minds.informed shows
    constructor
    · rw [config_call, minds.setup]
    · rw [active, shown_of_frame other shows]
      rfl
    · intro version _
      exact ⟨received.descriptor, inForce⟩
  · obtain ⟨active, kept | ⟨descriptor, _, replaced⟩⟩ := call_of_silent silent.1 silent.2
    · constructor
      · rw [config_call, minds.setup]
      · rw [active, shown_of_silent silent, minds.active]
      · intro version inForce
        rw [kept]
        rw [active] at inForce
        exact minds.informed version inForce
    · constructor
      · rw [config_call, minds.setup]
      · rw [active, shown_of_silent silent, minds.active]
      · intro version _
        exact ⟨descriptor, replaced⟩

end Step

theorem minds_callAll (config : ReceiverConfig) (calls : List Call) :
    Minds config ((create config).callAll calls).1 ((create config).callAll calls).2 := by
  induction calls using List.reverseRecOn with
  | nil => exact minds_create rfl
  | append_singleton calls call ih =>
      rw [callAll_concat]
      exact ih.call call

/-- Where the format in force is not the one that was shown last, a silent call put it there. -/
theorem exists_replaces (config : ReceiverConfig) (calls : List Call)
    (apart : ((create config).callAll calls).2.activeDescriptor ≠
      (shown config.initial ((create config).callAll calls).1).map Prod.snd) :
    ∃ front call back descriptor, calls = front ++ call :: back ∧
      (∀ entry ∈ (((create config).callAll front).2.callAll (call :: back)).1, entry.Silent) ∧
      ((create config).callAll front).2.Replaces call descriptor ∧
      ((create config).callAll calls).2.activeDescriptor = some descriptor := by
  induction calls using List.reverseRecOn with
  | nil =>
      exact absurd ((activeDescriptor_create config).trans (map_snd_agreed _).symm) apart
  | append_singleton calls call ih =>
      have minds := minds_callAll config calls
      rw [callAll_concat] at apart
      have after := congrArg Prod.snd ((create config).callAll_concat calls call)
      rcases reset_or_shows_or_silent
          ⟨call, (((create config).callAll calls).2.call call).1⟩ with
        reset | ⟨other, received, shows⟩ | silent
      · rw [shown_of_reset reset, map_snd_agreed, minds.forgets reset] at apart
        exact absurd (activeDescriptor_create config) apart
      · obtain ⟨_, inForce, _⟩ := call_of_shown minds.informed shows
        rw [shown_of_frame other shows] at apart
        exact absurd inForce apart
      · rw [shown_of_silent silent] at apart
        -- The last silent call that changes the format in force is the one to name.
        obtain ⟨_, kept | ⟨descriptor, replaces, inForce⟩⟩ := call_of_silent silent.1 silent.2
        · have before := apart
          rw [kept] at before
          obtain ⟨front, replacing, back, descriptor, rfl, silents, replaces, inForce⟩ :=
            ih before
          refine ⟨front, replacing, back ++ [call], descriptor, ?_, ?_, replaces, ?_⟩
          · rw [List.append_assoc, List.cons_append]
          · intro entry member
            rw [← List.cons_append, callAll_concat] at member
            rcases List.mem_append.1 member with earlier | last
            · exact silents entry earlier
            · rw [List.mem_singleton.1 last]
              rw [callAll_append] at silent
              exact silent
          · rw [after]
            exact kept.trans inForce
        · refine ⟨calls, call, [], descriptor, rfl, ?_, replaces, ?_⟩
          · intro entry member
            rw [List.mem_singleton.1 member]
            exact silent
          · rw [after]
            exact inForce

/-- When a frame comes with a notice, whatever a receiver was called with before: unless it comes
under the version that was shown last and a descriptor that was in force already. So the notice is
missing for a frame under another descriptor than the one that was shown last exactly if a silent
call put that descriptor in force, under the version that was shown last. -/
theorem changed_of_delivered (config : ReceiverConfig) (calls : List Call) :
    let run := (create config).callAll calls
    let latest := shown config.initial run.1
    ∀ call received, (run.2.call call).1 = .ok (some (.frame received)) →
      (received.formatChanged = true ↔
        ¬(latest.map Prod.fst = some received.version ∧
          run.2.activeDescriptor = some received.descriptor)) ∧
      (latest.map Prod.snd ≠ some received.descriptor →
        (received.formatChanged = false ↔
          latest.map Prod.fst = some received.version ∧
            run.2.activeDescriptor = some received.descriptor ∧
            ∃ front silent back, calls = front ++ silent :: back ∧
              (∀ entry ∈ (((create config).callAll front).2.callAll (silent :: back)).1,
                entry.Silent) ∧
              ((create config).callAll front).2.Replaces silent received.descriptor)) := by
  intro run latest call received delivered
  have minds : Minds config run.1 run.2 := minds_callAll config calls
  obtain ⟨_, _, unchanged⟩ := call_of_shown minds.informed delivered
  rw [minds.active] at unchanged
  constructor
  · rw [← unchanged, Bool.not_eq_false]
  · intro apart
    rw [unchanged]
    constructor
    · rintro ⟨version, inForce⟩
      refine ⟨version, inForce, ?_⟩
      have other : run.2.activeDescriptor ≠ latest.map Prod.snd := by
        rw [inForce]
        exact apart.symm
      obtain ⟨front, silent, back, descriptor, parts, silents, replaces, same⟩ :=
        exists_replaces config calls other
      rw [inForce] at same
      cases same
      exact ⟨front, silent, back, parts, silents, replaces⟩
    · rintro ⟨version, inForce, _⟩
      exact ⟨version, inForce⟩

/-- An announcement with nothing behind it, between two frames of one version. -/
theorem changed_of_delivered_behind_silence :
    let header : PacketHeader := ⟨true, 1, .none, 0, 0⟩
    let inline (text : String) (payload : Bytes) : Packet :=
      ⟨header, true, false, 0, Sender.announcement (some ⟨text⟩) ++ payload⟩
    let last : Packet := ⟨{ header with capsInline := false }, true, false, 0, [2]⟩
    let received : ReceivedFrame := ⟨[2], .none, 1, ⟨"second"⟩, false, 0⟩
    let calls : List Call := [.packet (inline "first" [1]), .packet (inline "second" [])]
    let run := (create .default).callAll calls
    (run.2.call (.packet last)).1 = .ok (some (.frame received)) ∧
      (shown none run.1).map Prod.snd ≠ some received.descriptor ∧
      ∃ front silent back, calls = front ++ silent :: back ∧
        ((create .default).callAll front).2.Replaces silent received.descriptor := by
  intro header inline last received calls run
  have delivered : (run.2.call (.packet last)).1 = .ok (some (.frame received)) := by
    decide +kernel
  have apart : (shown none run.1).map Prod.snd ≠ some received.descriptor := by
    decide +kernel
  obtain ⟨_, missing⟩ := changed_of_delivered .default calls (.packet last) received delivered
  obtain ⟨_, _, front, silent, back, parts, _, replaces⟩ := (missing apart).1 rfl
  exact ⟨delivered, apart, front, silent, back, parts, replaces⟩

/-- Versions come round: where the frames that announce seven more formats carry nothing else, the
frame behind them comes under the last of these formats, the first one was shown last, and there is
no notice. -/
theorem replaced_without_notice :
    ∃ sender, Sender.create ⟨1400, none⟩ = .ok sender ∧
      let naming (payload : Bytes) (text : String) : Action :=
        .send { Frame.blank with payload, descriptor := some ⟨text⟩ }
      let line := (Line.fresh sender ⟨96, 0, 0⟩ fun _ => none).run
        (naming [1] "a" :: ["b", "c", "d", "e", "f", "g", "h"].map (naming []))
      let run := (create .default).callAll ((Line.packets line.log).map .packet)
      let frame : Frame := { Frame.blank with payload := [2] }
      let last : Packet := ⟨⟨false, 1, .none, 0, 0⟩, true, false, 0, [2]⟩
      (line.sender.attempt frame line.outlet).packets = [last] ∧
        shown none run.1 = some (1, ⟨"a"⟩) ∧
        (run.2.call (.packet last)).1 =
          .ok (some (.frame ⟨[2], .none, 1, ⟨"h"⟩, false, 0⟩)) := by
  refine ⟨_, rfl, ?_⟩
  decide +kernel

end FrameLink.Receiver

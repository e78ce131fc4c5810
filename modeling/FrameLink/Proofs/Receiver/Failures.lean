import FrameLink.Proofs.Receiver.Notices

/-!
# What a failure leaves behind

A call that fails drops the bytes at hand and leaves the rest of the receiver as it was, with one
exception: the announcement of a frame is taken in before its event is looked at, and stays where
the event is refused (`state_of_error`).
-/

namespace FrameLink

/-- The errors of a frame whose event is of no known kind, or cannot be read. -/
inductive FrameError.OfEvent : FrameError → Prop
  | unknownKind (value : Nat) : OfEvent (.unknownEventType value)
  | malformed (fault : EventFault) : OfEvent (.malformedEvent fault)

namespace Receiver

open FrameError (OfEvent)

/-! ## Events -/

theorem ofEvent_eventKind {header : PacketHeader} {error : FrameError}
    (named : header.eventKind = .error error) : OfEvent error := by
  unfold PacketHeader.eventKind EventKind.ofByte at named
  split at named
  next => cases named
  split at named
  next => cases named
  split at named
  next => cases named
  split at named
  next => cases named
  next =>
    cases named
    exact .unknownKind _

theorem ofEvent_takeEvent {kind : EventKind} {bytes : Bytes} {error : FrameError}
    (taken : takeEvent kind bytes = .error error) : OfEvent error := by
  unfold takeEvent Event.ofBody at taken
  split at taken
  next =>
    cases taken
    exact .malformed _
  split at taken
  next =>
    cases taken
    exact .malformed _
  next => cases taken

/-! ## Frames -/

section Frames

variable {receiver : Receiver} {header : PacketHeader} {timestamp : UInt32} {bytes : Bytes}
variable {error : FrameError}

/-- Whether a frame starts with a descriptor that can be read. -/
def Announces (header : PacketHeader) (bytes : Bytes) (descriptor : FormatDescriptor) : Prop :=
  header.capsInline = true ∧ ∃ rest, takeDescriptor bytes = .ok (descriptor, rest)

/-- What stands behind an announcement fails on its event, or for want of a format. -/
theorem Delivers.of_error {replaced : Bool} {outcome : Answer × Receiver}
    (delivers : Delivers receiver header timestamp replaced bytes outcome)
    (failed : outcome.1 = .error error) :
    outcome.2 = receiver ∧ (OfEvent error ∨ receiver.cache.lookup header.version = none) := by
  cases delivers with
  | unknownKind named =>
      cases failed
      exact ⟨rfl, .inl (ofEvent_eventKind named)⟩
  | unreadable named taken =>
      cases failed
      exact ⟨rfl, .inl (ofEvent_takeEvent taken)⟩
  | missing noEvent someByte unknown => exact ⟨rfl, .inr unknown⟩
  | event | nothing | frame => cases failed

/-- A frame that fails leaves its announcement behind, if it has one, and nothing else. With an
announcement it can fail on its event alone, since its format is known by then. -/
theorem complete_of_error
    (failed : (complete receiver header timestamp bytes).1 = .error error) :
    (∀ descriptor, Announces header bytes descriptor →
        OfEvent error ∧
          (complete receiver header timestamp bytes).2 =
            receiver.hear header.version descriptor) ∧
      ((∀ descriptor, ¬Announces header bytes descriptor) →
        (complete receiver header timestamp bytes).2 = receiver) := by
  rcases complete_cases receiver header timestamp bytes with
    ⟨plain, same⟩ | ⟨fault, refused, same⟩ | ⟨descriptor, rest, inline, taken, same⟩
  · rw [same] at failed ⊢
    constructor
    · rintro descriptor ⟨inline, _⟩
      rw [plain] at inline
      cases inline
    · intro _
      exact ((delivers_deliver _ _ _ _ _).of_error failed).1
  · rw [same]
    constructor
    · rintro descriptor ⟨_, rest, taken⟩
      rw [refused] at taken
      cases taken
    · intro _
      rfl
  · rw [same] at failed ⊢
    obtain ⟨alone, event | unknown⟩ := (delivers_deliver _ _ _ _ _).of_error failed
    · constructor
      · rintro other ⟨_, others, same⟩
        rw [taken] at same
        cases same
        exact ⟨event, alone⟩
      · intro silent
        exact absurd ⟨inline, rest, taken⟩ (silent descriptor)
    · rw [lookup_hear] at unknown
      cases unknown

end Frames

/-! ## Calls -/

section Calls

variable {receiver : Receiver} {call : Call} {error : FrameError}

/-- Whether a call completes a frame that starts with a descriptor, under a version. -/
def Inlines (receiver : Receiver) (call : Call) (version : FormatVersion)
    (descriptor : FormatDescriptor) : Prop :=
  ∃ packet bytes, call.packet? = some packet ∧ receiver.Completes packet bytes ∧
    packet.header.version = version ∧ Announces packet.header bytes descriptor

/-- Nothing is left of a packet that fails but the announcement of the frame that it completes. -/
theorem Outcome.of_error {packet : Packet} {outcome : Answer × Receiver}
    (comesTo : Outcome receiver packet outcome) (failed : outcome.1 = .error error) :
    (∀ bytes descriptor, receiver.Completes packet bytes →
        Announces packet.header bytes descriptor →
        OfEvent error ∧
          outcome.2 = receiver.discard.hear packet.header.version descriptor) ∧
      ((∀ bytes descriptor, receiver.Completes packet bytes →
          ¬Announces packet.header bytes descriptor) →
        outcome.2 = receiver.discard) := by
  cases comesTo with
  | hollow | inner => cases failed
  | astray _ elsewhere =>
      constructor
      · intro bytes descriptor completes
        exact absurd completes.place elsewhere
      · intro _
        exact receiver.holding_nil
  | oversized _ _ long =>
      constructor
      · intro bytes descriptor completes
        have fits := completes.fits
        rw [completes.whole] at fits
        exact absurd long (Nat.not_lt.2 fits)
      · intro _
        exact receiver.holding_nil
  | @whole read completes =>
      obtain ⟨announced, alone⟩ := complete_of_error failed
      constructor
      · intro bytes descriptor other
        rw [other.whole, ← completes.whole]
        exact announced descriptor
      · intro silent
        exact alone fun descriptor => silent read descriptor completes

/-- Nothing is left of a call that fails but the announcement of the frame that it completes. -/
theorem call_of_error (failed : (receiver.call call).1 = .error error) :
    (∀ version descriptor, receiver.Inlines call version descriptor →
        OfEvent error ∧ (receiver.call call).2 = receiver.discard.hear version descriptor) ∧
      ((∀ version descriptor, ¬receiver.Inlines call version descriptor) →
        (receiver.call call).2 = receiver.discard) := by
  cases brings : call.packet? with
  | none =>
      constructor
      · rintro version descriptor ⟨packet, _, other, _⟩
        rw [brings] at other
        cases other
      · intro _
        rcases (@call_of_brings_nothing receiver call brings).1 with ⟨rfl, _⟩ | drops
        · cases failed
        · exact drops
  | some packet =>
      rw [call_of_brings brings] at failed ⊢
      obtain ⟨announced, alone⟩ := (receiver.outcome_accept packet).of_error failed
      constructor
      · rintro version descriptor ⟨other, bytes, same, completes, rfl, announces⟩
        rw [brings] at same
        cases same
        exact announced bytes descriptor completes announces
      · intro silent
        apply alone
        intro bytes descriptor completes announces
        exact silent _ descriptor ⟨packet, bytes, brings, completes, rfl, announces⟩

/-- A call that fails drops the bytes at hand, and touches nothing else but the formats. -/
theorem keeps_of_error (failed : (receiver.call call).1 = .error error) :
    (receiver.call call).2.pending.size = 0 ∧ (receiver.call call).2.active = receiver.active ∧
      (receiver.call call).2.config = receiver.config := by
  obtain ⟨announced, alone⟩ := call_of_error failed
  by_cases inlines : ∃ version descriptor, receiver.Inlines call version descriptor
  · obtain ⟨version, descriptor, inlines⟩ := inlines
    rw [(announced version descriptor inlines).2]
    exact ⟨rfl, rfl, rfl⟩
  · have silent : ∀ version descriptor, ¬receiver.Inlines call version descriptor := by
      intro version descriptor other
      exact inlines ⟨version, descriptor, other⟩
    rw [alone silent]
    exact ⟨rfl, rfl, rfl⟩

end Calls

/-- Whatever state a receiver is in, a call that fails leaves it waiting for a frame, and everything
else as it was: but for the descriptor of a completed frame whose event was refused, which is known
under its version from then on. A frame with a descriptor never fails for want of a format, and a
call that answers nothing leaves the version in force alone. -/
theorem state_of_error (receiver : Receiver) (call : Call) :
    let after := (receiver.call call).2
    (∀ error, (receiver.call call).1 = .error error →
      after.pending.size = 0 ∧ after.active = receiver.active ∧ after.config = receiver.config ∧
        (∀ version descriptor, receiver.Inlines call version descriptor →
          OfEvent error ∧ after.cache = receiver.cache.store version descriptor) ∧
        ((∀ version descriptor, ¬receiver.Inlines call version descriptor) →
          after.cache = receiver.cache)) ∧
      (∀ version descriptor missing, receiver.Inlines call version descriptor →
        (receiver.call call).1 ≠ .error (.missingFormatVersion missing)) ∧
      (call ≠ .reset → (receiver.call call).1 = .ok none → after.active = receiver.active) := by
  intro after
  refine ⟨?_, ?_, ?_⟩
  · intro error failed
    obtain ⟨announced, alone⟩ := call_of_error failed
    obtain ⟨pending, active, config⟩ := keeps_of_error failed
    refine ⟨pending, active, config, ?_, ?_⟩
    · intro version descriptor inlines
      obtain ⟨event, heard⟩ := announced version descriptor inlines
      exact ⟨event, congrArg Receiver.cache heard⟩
    · intro silent
      exact (congrArg Receiver.cache (alone silent)).trans rfl
  · intro version descriptor missing inlines failed
    cases ((call_of_error failed).1 version descriptor inlines).1
  · intro other nothing
    apply (call_of_silent other _).1
    intro received shows
    rw [nothing] at shows
    cases shows

/-- The second packet of a frame ends it: under an announcement that replaces the format of session
setup, the event is of no known kind. A packet without bytes, which comes before it, changes
nothing. -/
theorem state_of_error_unknown_event :
    let header : PacketHeader := ⟨true, 0, .none, 9, 0⟩
    let first : Packet := ⟨header, false, false, 0, [2, 98]⟩
    let last : Packet := ⟨{ header with offset := 2 }, true, false, 0, [0, 7]⟩
    let hollow : Call := .packet { last with payload := [] }
    let receiver := ((create ⟨some ⟨"a"⟩, 4⟩).call (.packet first)).2
    receiver.pending.size = 2 ∧ receiver.Inlines (.packet last) 0 ⟨"b"⟩ ∧
      (receiver.call (.packet last)).1 = .error (.unknownEventType 9) ∧
      (receiver.call (.packet last)).2.pending.size = 0 ∧
      (receiver.call (.packet last)).2.active = some 0 ∧
      (receiver.call (.packet last)).2.cache = receiver.cache.store 0 ⟨"b"⟩ ∧
      (receiver.call hollow).1 = .ok none ∧ (receiver.call hollow).2.active = some 0 := by
  intro header first last hollow receiver
  have inlines : receiver.Inlines (.packet last) 0 ⟨"b"⟩ := by
    refine ⟨last, [2, 98, 0, 7], rfl, ⟨by decide, rfl, rfl, rfl, Nat.le_refl 4⟩, rfl, rfl, [7], ?_⟩
    decide +kernel
  have failed : (receiver.call (.packet last)).1 = .error (.unknownEventType 9) := by
    decide +kernel
  obtain ⟨ofError, _⟩ := state_of_error receiver (.packet last)
  obtain ⟨pending, active, _, announced, _⟩ := ofError _ failed
  have inForce : receiver.active = some 0 := rfl
  have ignored : (receiver.call hollow).1 = .ok none := rfl
  obtain ⟨_, _, unchanged⟩ := state_of_error receiver hollow
  refine ⟨rfl, inlines, failed, pending, active.trans inForce, ?_, ignored, ?_⟩
  · exact (announced 0 ⟨"b"⟩ inlines).2
  · exact (unchanged (by decide) ignored).trans inForce

end Receiver

end FrameLink

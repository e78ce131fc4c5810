import FrameLink.Proofs.Receiver.Notices

/-!
# What a receiver keeps

Over all its life, whatever it is called with, a receiver holds no more bytes than its setup allows
and knows the format that is in force. Between two resets what it knows only grows (`Grows`); a
reset takes it back to where it began (`orderly_of_run`).
-/

namespace FrameLink.Receiver

/-! ## What only grows -/

/-- Whatever was known is still known, and some format is in force if one was. -/
structure Grows (before after : Receiver) : Prop where
  known : ∀ version, (before.cache.lookup version).isSome = true →
    (after.cache.lookup version).isSome = true
  active : before.active.isSome = true → after.active.isSome = true

theorem Grows.refl (receiver : Receiver) : Grows receiver receiver where
  known _ := id
  active := id

theorem Grows.trans {first second third : Receiver} (front : Grows first second)
    (back : Grows second third) : Grows first third where
  known version known := back.known version (front.known version known)
  active active := back.active (front.active active)

/-- What is at hand says nothing about formats. -/
theorem grows_holding (receiver : Receiver) (bytes : Bytes) :
    Grows receiver (receiver.holding bytes) where
  known _ := id
  active := id

theorem grows_hear (receiver : Receiver) (version : FormatVersion)
    (descriptor : FormatDescriptor) : Grows receiver (receiver.hear version descriptor) where
  known other known := by
    rw [hear, FormatCache.lookup_store]
    split
    next => exact Option.isSome_some
    next => exact known
  active := id

theorem Delivers.grows {receiver : Receiver} {header : PacketHeader} {timestamp : UInt32}
    {replaced : Bool} {bytes : Bytes} {outcome : Answer × Receiver}
    (delivers : Delivers receiver header timestamp replaced bytes outcome) :
    Grows receiver outcome.2 := by
  cases delivers with
  | unknownKind | unreadable | event | nothing | missing => exact Grows.refl _
  | frame =>
      constructor
      · intro version
        exact id
      · intro _
        exact Option.isSome_some

theorem grows_complete (receiver : Receiver) (header : PacketHeader) (timestamp : UInt32)
    (bytes : Bytes) : Grows receiver (complete receiver header timestamp bytes).2 := by
  rcases complete_cases receiver header timestamp bytes with
    ⟨_, same⟩ | ⟨_, _, same⟩ | ⟨descriptor, _, _, _, same⟩
  · rw [same]
    exact (delivers_deliver _ _ _ _ _).grows
  · rw [same]
    exact Grows.refl _
  · rw [same]
    exact (grows_hear receiver header.version descriptor).trans (delivers_deliver _ _ _ _ _).grows

/-- A call that is no reset forgets no format. -/
theorem grows_call (receiver : Receiver) {call : Call} (other : call ≠ .reset) :
    Grows receiver (receiver.call call).2 := by
  rcases receiver.call_cases call with
    ⟨reset, _⟩ | ⟨header, timestamp, bytes, reads⟩ | ⟨⟨bytes, holds⟩, _⟩
  · exact absurd reset other
  · rw [reads, ← holding_nil]
    exact (grows_holding receiver []).trans (grows_complete _ header timestamp bytes)
  · rw [holds]
    exact grows_holding receiver bytes

/-- Without a reset no format is ever forgotten. -/
theorem grows_callAll (receiver : Receiver) {calls : List Call} (others : .reset ∉ calls) :
    Grows receiver (receiver.callAll calls).2 := by
  induction calls generalizing receiver with
  | nil => exact Grows.refl _
  | cons call rest ih =>
      rw [List.mem_cons, not_or] at others
      exact (grows_call receiver (Ne.symm others.1)).trans (ih _ others.2)

/-! ## What always holds -/

/-- A receiver holds no more bytes than its setup allows. Where the setup has a format, version 0 is
known, and some format is in force. -/
structure Orderly (receiver : Receiver) : Prop where
  bounded : receiver.pending.size ≤ receiver.config.maxFrameSize
  seated : receiver.config.initial.isSome = true →
    (receiver.cache.lookup .outOfBand).isSome = true ∧ receiver.active.isSome = true

theorem orderly_create (config : ReceiverConfig) : (create config).Orderly where
  bounded := Nat.zero_le _
  seated := by
    intro agreed
    constructor
    · rw [create, FormatCache.lookup_seeded, if_pos rfl]
      exact agreed
    · rw [create, Option.isSome_map]
      exact agreed

/-- The bytes that a packet leaves at hand are never more than the setup allows. -/
theorem Outcome.bounded {receiver : Receiver} {packet : Packet} {outcome : Answer × Receiver}
    (comesTo : Outcome receiver packet outcome)
    (bounded : receiver.pending.size ≤ receiver.config.maxFrameSize) :
    outcome.2.pending.size ≤ receiver.config.maxFrameSize := by
  cases comesTo with
  | hollow =>
      rw [size_holding, meets]
      split
      next => exact Nat.zero_le _
      next =>
        rw [Gathered.length_toBytes]
        exact bounded
  | astray | oversized =>
      rw [size_holding]
      exact Nat.zero_le _
  | inner _ _ _ fits =>
      rw [size_holding]
      exact fits
  | whole =>
      rw [(complete_keeps _ _ _ _).2]
      exact Nat.zero_le _

theorem Orderly.call {receiver : Receiver} (orderly : receiver.Orderly) (call : Call) :
    (receiver.call call).2.Orderly := by
  by_cases reset : call = .reset
  · rw [reset, Receiver.call, reset_eq_create]
    exact orderly_create receiver.config
  · constructor
    · rw [config_call]
      cases brings : call.packet? with
      | none =>
          rw [pending_of_brings_nothing brings]
          exact Nat.zero_le _
      | some packet =>
          rw [call_of_brings brings]
          exact (receiver.outcome_accept packet).bounded orderly.bounded
    · rw [config_call]
      intro agreed
      obtain ⟨known, active⟩ := orderly.seated agreed
      have grows := grows_call receiver reset
      exact ⟨grows.known _ known, grows.active active⟩

theorem Orderly.callAll {receiver : Receiver} (orderly : receiver.Orderly) (calls : List Call) :
    (receiver.callAll calls).2.Orderly := by
  induction calls generalizing receiver with
  | nil => exact orderly
  | cons call rest ih => exact ih (orderly.call call)

/-- Whatever a fresh receiver is called with, no more bytes are at hand than its setup allows, the
version in force is known, so that there is a descriptor in force exactly if there is a version, and
where the setup has a format, version 0 is known and some version is in force. What is known stays
known until a reset, and behind a reset nothing can be told from a fresh receiver. -/
theorem orderly_of_run (config : ReceiverConfig) (calls : List Call) :
    let reached := ((create config).callAll calls).2
    reached.pending.size ≤ config.maxFrameSize ∧
      (∀ version, reached.active = some version →
        (reached.cache.lookup version).isSome = true) ∧
      (reached.activeDescriptor.isSome = true ↔ reached.active.isSome = true) ∧
      (config.initial.isSome = true →
        (reached.cache.lookup .outOfBand).isSome = true ∧ reached.active.isSome = true) ∧
      (∀ more, .reset ∉ more → ∀ version, (reached.cache.lookup version).isSome = true →
        ((reached.callAll more).2.cache.lookup version).isSome = true) ∧
      ∀ more, reached.reset.callAll more = (create config).callAll more := by
  intro reached
  have orderly : reached.Orderly := (orderly_create config).callAll calls
  have informed : reached.Informed := (minds_callAll config calls).informed
  have setup : reached.config = config := config_callAll (create config) calls
  refine ⟨?_, ?_, ?_, ?_, ?_, ?_⟩
  · rw [← setup]
    exact orderly.bounded
  · intro version active
    obtain ⟨descriptor, inForce⟩ := informed version active
    rw [← activeDescriptor_of_active active, inForce]
    exact Option.isSome_some
  · constructor
    · intro described
      cases active : reached.active with
      | none =>
          rw [activeDescriptor, active] at described
          cases described
      | some version => exact Option.isSome_some
    · intro active
      obtain ⟨version, active⟩ := Option.isSome_iff_exists.1 active
      obtain ⟨descriptor, inForce⟩ := informed version active
      rw [inForce]
      exact Option.isSome_some
  · rw [← setup]
    exact orderly.seated
  · intro more others
    exact (grows_callAll reached others).known
  · intro more
    rw [reset_eq_create, setup]

/-- A format in the place of that of session setup and half a frame at hand: a reset goes back
behind both. -/
theorem orderly_of_run_overwritten :
    let plain : PacketHeader := ⟨false, 0, .none, 0, 0⟩
    let naming : Call :=
      .packet ⟨{ plain with capsInline := true }, true, false, 0, [2, 98, 0, 1]⟩
    let half : Call := .packet ⟨plain, false, false, 0, [2, 3]⟩
    let last : Call := .packet ⟨plain, true, false, 0, [4]⟩
    let config : ReceiverConfig := ⟨some ⟨"a"⟩, 4⟩
    let reached := ((create config).callAll [naming, half]).2
    reached.pending.size = 2 ∧ reached.activeDescriptor = some ⟨"b"⟩ ∧
      reached.active = some 0 ∧ (reached.cache.lookup 0).isSome = true ∧
      ((reached.callAll [half, .gap]).2.cache.lookup 0).isSome = true ∧
      (reached.cache.lookup .outOfBand).isSome = true ∧
      reached.reset.callAll [last] = (create config).callAll [last] ∧
      ((create config).call last).1 = .ok (some (.frame ⟨[4], .none, 0, ⟨"a"⟩, false, 0⟩)) := by
  intro plain naming half last config reached
  have active : reached.active = some 0 := by decide +kernel
  obtain ⟨_, known, _, seated, stays, forgets⟩ := orderly_of_run config [naming, half]
  have occupied := known 0 active
  refine ⟨by decide +kernel, by decide +kernel, active, occupied, ?_, ?_, forgets [last], ?_⟩
  · exact stays [half, .gap] (by decide) 0 occupied
  · exact (seated rfl).1
  · decide +kernel

end FrameLink.Receiver

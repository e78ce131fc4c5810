import FrameLink.Proofs.Receiver.Outcomes

/-!
# Calls of a receiver

A receiver is called with packets and with datagrams, is told of gaps, and is reset. Nothing is
assumed about what it is called with: a call either brings a packet, which meets whatever is at hand
(`Outcome`), or drops what is at hand and delivers nothing (`call_of_brings_nothing`). It
resets the receiver, reads a frame, or changes the bytes at hand alone (`call_cases`).
-/

namespace FrameLink.Receiver

/-- One call of a receiver. -/
inductive Call where
  | packet (packet : Packet)
  | datagram (datagram : Datagram)
  | gap
  | reset
  deriving DecidableEq, Repr

/-- The packet that a call brings, where it brings one. -/
def Call.packet? : Call → Option Packet
  | .packet brought => some brought
  | .datagram carrying =>
      match Packet.ofDatagram carrying with
      | .ok brought => some brought
      | .error _ => none
  | .gap => none
  | .reset => none

/-- Makes a call. -/
def call (receiver : Receiver) : Call → Answer × Receiver
  | .packet packet => receiver.accept packet
  | .datagram datagram => receiver.acceptDatagram datagram
  | .gap => (.ok none, receiver.discard)
  | .reset => (.ok none, receiver.reset)

/-- A call with its answer. -/
structure Entry where
  call : Call
  answer : Answer
  deriving Repr

/-- Makes one call after the other, and keeps the log of them. -/
def callAll (receiver : Receiver) : List Call → List Entry × Receiver
  | [] => ([], receiver)
  | call :: rest =>
      let first := receiver.call call
      let others := first.2.callAll rest
      (⟨call, first.1⟩ :: others.1, others.2)

/-- Calls go on where the ones in front of them ended. -/
theorem callAll_append (receiver : Receiver) (front back : List Call) :
    receiver.callAll (front ++ back) =
      ((receiver.callAll front).1 ++ ((receiver.callAll front).2.callAll back).1,
        ((receiver.callAll front).2.callAll back).2) := by
  induction front generalizing receiver with
  | nil => rfl
  | cons first rest ih =>
      rw [List.cons_append, callAll, ih]
      rfl

/-- One more call adds its entry to the log. -/
theorem callAll_concat (receiver : Receiver) (calls : List Call) (call : Call) :
    receiver.callAll (calls ++ [call]) =
      ((receiver.callAll calls).1 ++ [⟨call, ((receiver.callAll calls).2.call call).1⟩],
        ((receiver.callAll calls).2.call call).2) :=
  receiver.callAll_append calls [call]

theorem call_of_brings {receiver : Receiver} {call : Call} {packet : Packet}
    (brings : call.packet? = some packet) : receiver.call call = receiver.accept packet := by
  cases call with
  | packet other =>
      cases brings
      rfl
  | datagram datagram =>
      rw [Receiver.call, acceptDatagram]
      simp only [Call.packet?] at brings
      cases read : Packet.ofDatagram datagram with
      | ok other =>
          rw [read] at brings
          cases brings
          rfl
      | error fault =>
          rw [read] at brings
          cases brings
  | gap => cases brings
  | reset => cases brings

/-- A call that brings no packet drops what is at hand, or everything, and delivers nothing. -/
theorem call_of_brings_nothing {receiver : Receiver} {call : Call} (brings : call.packet? = none) :
    (call = .reset ∧ (receiver.call call).2 = receiver.reset ∨
        (receiver.call call).2 = receiver.discard) ∧
      ∀ delivery, (receiver.call call).1 ≠ .ok (some delivery) := by
  cases call with
  | packet packet => cases brings
  | datagram datagram =>
      rw [Receiver.call, acceptDatagram]
      simp only [Call.packet?] at brings
      cases read : Packet.ofDatagram datagram with
      | ok packet =>
          rw [read] at brings
          cases brings
      | error fault =>
          constructor
          · exact .inr rfl
          · intro delivery delivered
            cases delivered
  | gap =>
      constructor
      · exact .inr rfl
      · intro delivery delivered
        cases delivered
  | reset =>
      constructor
      · exact .inl ⟨rfl, rfl⟩
      · intro delivery delivered
        cases delivered

theorem pending_of_brings_nothing {receiver : Receiver} {call : Call}
    (brings : call.packet? = none) : (receiver.call call).2.pending = .empty := by
  rcases (call_of_brings_nothing brings).1 with ⟨_, forgets⟩ | drops
  · rw [forgets, reset_eq_create]
    rfl
  · rw [drops]
    rfl

/-! ## What a call can do -/

/-- A packet makes a receiver read a frame, or changes the bytes at hand alone. -/
theorem accept_cases (receiver : Receiver) (packet : Packet) :
    (∃ bytes, receiver.accept packet =
        complete receiver.discard packet.header packet.timestamp bytes) ∨
      (∃ bytes, (receiver.accept packet).2 = receiver.holding bytes) ∧
        ∀ delivery, (receiver.accept packet).1 ≠ .ok (some delivery) := by
  have outcome := receiver.outcome_accept packet
  generalize receiver.accept packet = after at outcome
  cases outcome with
  | whole => exact .inl ⟨_, rfl⟩
  | hollow | astray | oversized | inner =>
      refine .inr ⟨⟨_, rfl⟩, ?_⟩
      intro delivery delivered
      cases delivered

/-- A call resets the receiver, reads a frame, or changes the bytes at hand alone. -/
theorem call_cases (receiver : Receiver) (call : Call) :
    (call = .reset ∧ (receiver.call call).2 = receiver.reset) ∨
      (∃ header timestamp bytes,
        receiver.call call = complete receiver.discard header timestamp bytes) ∨
      (∃ bytes, (receiver.call call).2 = receiver.holding bytes) ∧
        ∀ delivery, (receiver.call call).1 ≠ .ok (some delivery) := by
  cases brings : call.packet? with
  | none =>
      obtain ⟨forgets | drops, nothing⟩ := call_of_brings_nothing brings
      · exact .inl forgets
      · rw [← holding_nil] at drops
        exact .inr (.inr ⟨⟨_, drops⟩, nothing⟩)
  | some packet =>
      rw [call_of_brings brings]
      rcases accept_cases receiver packet with ⟨bytes, reads⟩ | holds
      · exact .inr (.inl ⟨_, _, bytes, reads⟩)
      · exact .inr (.inr holds)

/-! ## What no call touches -/

theorem config_call (receiver : Receiver) (call : Call) :
    (receiver.call call).2.config = receiver.config := by
  rcases receiver.call_cases call with ⟨_, forgets⟩ | ⟨_, _, _, reads⟩ | ⟨⟨_, holds⟩, _⟩
  · rw [forgets, reset_eq_create]
    rfl
  · rw [reads]
    exact (complete_keeps _ _ _ _).1
  · rw [holds]
    rfl

/-- A receiver keeps its setup. -/
theorem config_callAll (receiver : Receiver) (calls : List Call) :
    (receiver.callAll calls).2.config = receiver.config := by
  induction calls generalizing receiver with
  | nil => rfl
  | cons call rest ih =>
      rw [callAll, ih]
      exact config_call receiver call

end FrameLink.Receiver

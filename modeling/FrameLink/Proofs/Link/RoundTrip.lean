import FrameLink.Proofs.Sender.Announced
import FrameLink.Proofs.Sender.Fragments

/-!
# Lossless runs

A sender and a receiver with the same session setup, and a line that loses nothing. After every run
the two agree on the format in force, however often the versions have come round, so each frame
comes out as it went in (`Link.encode_accept`).
-/

namespace FrameLink

/-- The answers to the packets of a frame under a version, where this format is in force: nothing
in front of the last packet, and at the last one what was sent. -/
def Answered (frame : Frame) (version : FormatVersion) (known : Option FormatDescriptor)
    (answers : List Receiver.Answer) : Prop :=
  ∃ (quiet : Nat) (changed : Bool),
    answers = List.replicate quiet (.ok none) ++
      match frame.event, frame.payload, known with
      | some event, _, _ => [.ok (some (.event event))]
      | none, [], _ => []
      | none, _ :: _, none => [.error (.missingFormatVersion 0)]
      | none, _ :: _, some descriptor =>
          [.ok (some (.frame {
            payload := frame.payload
            flags := frame.flags
            version
            descriptor
            formatChanged := changed
            timestamp := frame.timestamp }))]

/-- A sender and the receiver that takes its packets. -/
structure Link where
  sender : Sender
  receiver : Receiver
  deriving DecidableEq, Repr

namespace Link

open FrameLink.Sender (greatestFrame)

/-- Does one thing: a frame is encoded, and all its packets are taken. -/
def perform (link : Link) : Action → Link
  | .announce descriptor => ⟨link.sender.announce descriptor, link.receiver⟩
  | .send frame => {
      sender := (link.sender.encode frame).2
      receiver :=
        match (link.sender.encode frame).1 with
        | .error _ => link.receiver
        | .ok packets => (link.receiver.acceptAll packets).2 }

/-- Does one thing after the other. -/
def run (link : Link) (actions : List Action) : Link :=
  actions.foldl perform link

/-- Whether every frame of a run, its announcement included, is short enough for its offsets and
for a receiver that takes so many bytes. -/
def Fits (most : Nat) (sender : Sender) : List Action → Prop
  | [] => True
  | .announce descriptor :: rest => Fits most (sender.announce descriptor) rest
  | .send frame :: rest =>
      ((sender.adopt frame).serialize frame).length ≤ most ∧
        ((sender.adopt frame).serialize frame).length ≤ greatestFrame ∧
        Fits most (sender.encode frame).2 rest

instance decidableFits (most : Nat) (sender : Sender) :
    (actions : List Action) → Decidable (Fits most sender actions)
  | [] => inferInstanceAs (Decidable True)
  | .announce descriptor :: rest => decidableFits most (sender.announce descriptor) rest
  | .send frame :: rest =>
      have : Decidable (Fits most (sender.encode frame).2 rest) := decidableFits most _ rest
      inferInstanceAs (Decidable (_ ∧ _ ∧ _))

/-- Both ends between two frames: the receiver waits for a frame, and knows the format in force
unless it is still due. -/
structure InStep (most : Nat) (known : Option FormatDescriptor) (link : Link) : Prop where
  coherent : link.sender.Coherent
  announced : link.sender.announced = known
  agrees : link.sender.Agrees link.receiver.cache
  waiting : link.receiver.pending = .empty
  bound : link.receiver.config.maxFrameSize = most

end Link

/-- What a frame comes to where its format is known, put as the answers to its packets. -/
theorem answered_of_known (frame : Frame) {version : FormatVersion} {known : FormatCache}
    {descriptor : FormatDescriptor} (quiet : Nat) (changed : Bool)
    (informed : known.lookup version = some descriptor) :
    Answered frame version (some descriptor)
      (List.replicate quiet (.ok none) ++ [frame.verdict version known changed]) := by
  unfold Frame.verdict
  cases carried : frame.event with
  | some event => exact ⟨quiet, changed, by simp [carried]⟩
  | none =>
      cases bytes : frame.payload with
      | nil => exact ⟨quiet + 1, changed, by simp [carried, bytes, List.replicate_succ']⟩
      | cons first rest => exact ⟨quiet, changed, by simp [carried, bytes, informed]⟩

/-- What a frame comes to, put as the answers to its packets. -/
theorem answered_of_verdict (frame : Frame) {sender : Sender} {known : FormatCache}
    (quiet : Nat) (changed : Bool) (coherent : sender.Coherent)
    (informed : known.lookup sender.current = sender.announced) :
    Answered frame sender.current sender.announced
      (List.replicate quiet (.ok none) ++ [frame.verdict sender.current known changed]) := by
  cases announced : sender.announced with
  | some descriptor =>
      rw [announced] at informed
      exact answered_of_known frame quiet changed informed
  | none =>
      have version := coherent.outOfBand_of_unannounced announced
      rw [announced] at informed
      unfold Frame.verdict
      cases carried : frame.event with
      | some event => exact ⟨quiet, changed, by simp [carried]⟩
      | none =>
          cases bytes : frame.payload with
          | nil => exact ⟨quiet + 1, changed, by simp [carried, bytes, List.replicate_succ']⟩
          | cons first rest =>
              rw [informed]
              refine ⟨quiet, changed, ?_⟩
              simp [carried, bytes, version, FormatVersion.outOfBand]

namespace Link

open FrameLink.Sender (greatestFrame)

variable {most : Nat} {known : Option FormatDescriptor} {link : Link}

/-- A format that is named keeps both ends in step. -/
theorem InStep.announce (inStep : InStep most known link) (descriptor : FormatDescriptor) :
    InStep most (some descriptor) (link.perform (.announce descriptor)) where
  coherent := inStep.coherent.announce descriptor
  announced := Sender.announced_announce link.sender descriptor
  agrees := inStep.agrees.announce descriptor
  waiting := inStep.waiting
  bound := inStep.bound

/-- A frame that fits is answered as it was sent, and keeps both ends in step. -/
theorem InStep.send (inStep : InStep most known link) {frame : Frame}
    (fits : ((link.sender.adopt frame).serialize frame).length ≤ most)
    (short : ((link.sender.adopt frame).serialize frame).length ≤ greatestFrame) :
    ∃ packets sender, link.sender.encode frame = (.ok packets, sender) ∧
      Answered frame sender.current (frame.descriptor.or known)
        (link.receiver.acceptAll packets).1 ∧
      InStep most (frame.descriptor.or known) ⟨sender, (link.receiver.acceptAll packets).2⟩ := by
  have coherent := inStep.coherent.adopt frame
  have agrees := inStep.agrees.adopt frame
  have announced := Sender.announced_adopt link.sender frame
  rw [inStep.announced] at announced
  refine ⟨_, _, Sender.encode_of_short short, ?_⟩
  by_cases empty : (link.sender.adopt frame).serialize frame = []
  · obtain ⟨nothingDue, noEvent, noPayload⟩ := Sender.serialize_eq_nil empty
    rw [Sender.fragments_of_empty empty]
    constructor
    · exact ⟨0, false, by simp [Receiver.acceptAll, noEvent, noPayload]⟩
    · exact {
        coherent := coherent.settled
        announced := announced
        agrees := fun _ => agrees nothingDue
        waiting := inStep.waiting
        bound := inStep.bound }
  · have informed := Sender.lookup_teach coherent agrees
    obtain ⟨active, accepted⟩ := Receiver.acceptOver_fragments (fun _ => false) link.receiver
      (link.sender.adopt frame) frame 0 empty (fun _ _ => rfl) (inStep.bound.symm ▸ fits) short
    rw [Receiver.acceptOver_of_kept (fun _ _ => rfl), Receiver.holding_nil, Receiver.discard,
      ← inStep.waiting] at accepted
    rw [accepted, ← announced]
    have answered := answered_of_verdict frame
      (((link.sender.adopt frame).fragments frame).length - 1)
      (link.receiver.notices (link.sender.adopt frame)) coherent informed
    constructor
    · exact answered
    · exact {
        coherent := coherent.settled
        announced := rfl
        agrees := fun _ => informed
        waiting := inStep.waiting
        bound := inStep.bound }

/-- Runs whose frames fit keep both ends in step. -/
theorem InStep.run (inStep : InStep most known link) {actions : List Action}
    (fits : Fits most link.sender actions) :
    InStep most (lastNamed known actions) (link.run actions) := by
  induction actions generalizing known link with
  | nil => exact inStep
  | cons action rest ih =>
      rw [lastNamed_cons]
      cases action with
      | announce descriptor => exact ih (inStep.announce descriptor) fits
      | send frame =>
          obtain ⟨fitting, short, others⟩ := fits
          obtain ⟨packets, sender, encoded, _, after⟩ := inStep.send fitting short
          have performed : link.perform (.send frame) =
              ⟨sender, (link.receiver.acceptAll packets).2⟩ := by
            rw [perform, encoded]
          rw [encoded] at others
          rw [← performed] at after
          apply ih after
          rw [performed]
          exact others

/-- A run fits where its front does, and what follows fits behind that front. -/
theorem fits_append (link : Link) {front back : List Action} :
    Fits most link.sender (front ++ back) ↔
      Fits most link.sender front ∧ Fits most (link.run front).sender back := by
  induction front generalizing link with
  | nil => simp [Fits, run]
  | cons action front ih =>
      have others := ih (link.perform action)
      cases action with
      | announce descriptor => exact others
      | send frame =>
          simp only [List.cons_append, Fits, and_assoc]
          exact and_congr_right fun _ => and_congr_right fun _ => others

/-- Setup alike at both ends puts them in step. -/
theorem inStep_create {config : SenderConfig} {sender : Sender}
    (created : Sender.create config = .ok sender) (most : Nat)
    (announced : sender.announced = config.initial) :
    InStep most config.initial ⟨sender, .create ⟨config.initial, most⟩⟩ where
  coherent := Sender.coherent_create created
  announced := announced
  agrees := Sender.agrees_create created
  waiting := rfl
  bound := rfl

/-- Every frame that is sent over a line without losses comes out as it went in, and leaves the
receiver waiting for the next one: whatever went before it, the format in force is the one that was
named last. -/
theorem encode_accept (config : SenderConfig) (most : Nat)
    (roomy : PacketHeader.size < config.mtu) :
    ∃ sender, Sender.create config = .ok sender ∧
      ∀ (before : List Action) (frame : Frame),
        Fits most sender (before ++ [.send frame]) →
        let link := (Link.mk sender (.create ⟨config.initial, most⟩)).run before
        ∃ packets after, link.sender.encode frame = (.ok packets, after) ∧
          Answered frame after.current (lastNamed config.initial (before ++ [.send frame]))
            (link.receiver.acceptAll packets).1 ∧
          (link.receiver.acceptAll packets).2.pending = .empty := by
  obtain ⟨sender, created, _, announced, _, _⟩ := Sender.create_of_roomy roomy
  refine ⟨sender, created, ?_⟩
  intro before frame fits link
  have fitting := (fits_append ⟨sender, .create ⟨config.initial, most⟩⟩).1 fits
  have inStep := (inStep_create created most announced).run fitting.1
  obtain ⟨packets, after, encoded, answered, next⟩ := inStep.send fitting.2.1 fitting.2.2.1
  refine ⟨packets, after, encoded, ?_, next.waiting⟩
  rw [lastNamed_concat]
  exact answered

/-- A frame behind a format that was named without one, over packets of two bytes each. -/
theorem encode_accept_announced :
    PacketHeader.size < 10 ∧
      ∃ sender, Sender.create ⟨10, none⟩ = .ok sender ∧
        let before : List Action :=
          [.send { Frame.blank with payload := [1] }, .announce ⟨"video/raw"⟩]
        let frame : Frame := { Frame.blank with payload := [2, 3, 4], timestamp := 5 }
        let link := (Link.mk sender (.create ⟨none, 64⟩)).run before
        Fits 64 sender (before ++ [.send frame]) ∧
          ∃ packets after, link.sender.encode frame = (.ok packets, after) ∧
            Answered frame after.current (some ⟨"video/raw"⟩)
              (link.receiver.acceptAll packets).1 ∧
            (link.receiver.acceptAll packets).2.pending = .empty := by
  have roomy : PacketHeader.size < 10 := by decide
  obtain ⟨sender, created, comesOut⟩ := encode_accept ⟨10, none⟩ 64 roomy
  refine ⟨roomy, sender, created, ?_⟩
  intro before frame link
  have fits : Fits 64 sender (before ++ [.send frame]) := by
    cases created
    decide +kernel
  exact ⟨fits, comesOut before frame fits⟩

end Link

end FrameLink

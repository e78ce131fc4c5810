import FrameLink.Proofs.Receiver.Completion

/-!
# The formats of a sender

Whatever a sender is asked to do, its format in force is the one that was named last (`lastNamed`),
and an announcement that is due is of that format. A receiver that hears every announcement has
the format under the version in use (`Sender.Agrees`).
-/

namespace FrameLink

/-- What a sender is asked to do. -/
inductive Action where
  | announce (descriptor : FormatDescriptor)
  | send (frame : Frame)
  deriving DecidableEq, Repr

/-- The format that an action names, where it names one. -/
def Action.descriptor? : Action → Option FormatDescriptor
  | .announce descriptor => some descriptor
  | .send frame => frame.descriptor

/-- The format that was named last, which is that of session setup where none was. -/
def lastNamed (initial : Option FormatDescriptor) (actions : List Action) :
    Option FormatDescriptor :=
  (actions.filterMap Action.descriptor?).getLast?.or initial

theorem lastNamed_cons (initial : Option FormatDescriptor) (action : Action)
    (actions : List Action) :
    lastNamed initial (action :: actions) =
      lastNamed (action.descriptor?.or initial) actions := by
  rw [lastNamed, lastNamed]
  cases named : action.descriptor? with
  | none => simp [named]
  | some descriptor =>
      rw [List.filterMap_cons_some named, List.getLast?_cons]
      cases (actions.filterMap Action.descriptor?).getLast? <;> rfl

theorem lastNamed_concat (initial : Option FormatDescriptor) (actions : List Action)
    (action : Action) :
    lastNamed initial (actions ++ [action]) =
      action.descriptor?.or (lastNamed initial actions) := by
  rw [lastNamed, List.filterMap_append]
  cases named : action.descriptor? with
  | none => simp [named, lastNamed]
  | some descriptor => simp [named]

namespace Sender

/-- The format that is due is the one in force, and version 0 is in force until one is named. -/
structure Coherent (sender : Sender) : Prop where
  announced_of_due : ∀ {descriptor}, sender.due = some descriptor →
    sender.announced = some descriptor
  outOfBand_of_unannounced : sender.announced = none → sender.current = .outOfBand

/-- Whoever knows these formats knows the one in force, unless it is still due. -/
def Agrees (sender : Sender) (known : FormatCache) : Prop :=
  sender.due = none → known.lookup sender.current = sender.announced

/-! ## Naming a format -/

theorem announced_announce (sender : Sender) (descriptor : FormatDescriptor) :
    (sender.announce descriptor).announced = some descriptor := by
  unfold announce
  split
  next same => exact same
  next => rfl

/-- The format of a frame is in force from that frame on. -/
theorem announced_adopt (sender : Sender) (frame : Frame) :
    (sender.adopt frame).announced = frame.descriptor.or sender.announced := by
  unfold adopt
  cases frame.descriptor with
  | none => rfl
  | some descriptor => exact announced_announce sender descriptor

/-- A format changes nothing about the size of packets. -/
theorem mtu_adopt (sender : Sender) (frame : Frame) : (sender.adopt frame).mtu = sender.mtu := by
  unfold adopt
  cases frame.descriptor with
  | none => rfl
  | some descriptor =>
      simp only [announce]
      split
      next => rfl
      next => rfl

theorem Coherent.announce {sender : Sender} (coherent : sender.Coherent)
    (descriptor : FormatDescriptor) : (sender.announce descriptor).Coherent := by
  unfold Sender.announce
  split
  next => exact coherent
  next =>
    constructor
    · intro other due
      exact due
    · intro unannounced
      cases unannounced

theorem Coherent.adopt {sender : Sender} (coherent : sender.Coherent) (frame : Frame) :
    (sender.adopt frame).Coherent := by
  unfold Sender.adopt
  cases frame.descriptor with
  | none => exact coherent
  | some descriptor => exact coherent.announce descriptor

theorem Agrees.announce {sender : Sender} {known : FormatCache} (agrees : sender.Agrees known)
    (descriptor : FormatDescriptor) : (sender.announce descriptor).Agrees known := by
  unfold Sender.announce
  split
  next => exact agrees
  next =>
    intro settled
    cases settled

theorem Agrees.adopt {sender : Sender} {known : FormatCache} (agrees : sender.Agrees known)
    (frame : Frame) : (sender.adopt frame).Agrees known := by
  unfold Sender.adopt
  cases frame.descriptor with
  | none => exact agrees
  | some descriptor => exact agrees.announce descriptor

/-! ## Sending a frame -/

theorem Coherent.settled {sender : Sender} (coherent : sender.Coherent) :
    sender.settled.Coherent := by
  constructor
  · intro descriptor due
    cases due
  · exact coherent.outOfBand_of_unannounced

/-- Whoever hears the announcement of a frame knows the format in force. -/
theorem lookup_teach {sender : Sender} {known : FormatCache}
    (coherent : sender.Coherent) (agrees : sender.Agrees known) :
    (sender.teach known).lookup sender.current = sender.announced := by
  unfold Sender.teach
  cases due : sender.due with
  | none => exact agrees due
  | some descriptor => simp [coherent.announced_of_due due]

/-! ## Setup -/

/-- The greatest packets have room for a byte behind the header. -/
theorem create_of_roomy {config : SenderConfig} (roomy : PacketHeader.size < config.mtu) :
    ∃ sender, create config = .ok sender ∧ sender.mtu = config.mtu ∧
      sender.announced = config.initial ∧ sender.current = .outOfBand ∧ sender.due = none := by
  rw [create, dif_pos roomy]
  exact ⟨_, rfl, rfl, rfl, rfl, rfl⟩

theorem coherent_create {config : SenderConfig} {sender : Sender}
    (created : create config = .ok sender) : sender.Coherent := by
  unfold create at created
  split at created
  next =>
    cases created
    constructor
    · intro descriptor due
      cases due
    · intro unannounced
      rfl
  next => cases created

theorem agrees_create {config : SenderConfig} {sender : Sender}
    (created : create config = .ok sender) : sender.Agrees (.seeded config.initial) := by
  unfold create at created
  split at created
  next =>
    cases created
    intro settled
    exact (FormatCache.lookup_seeded _ _).trans (if_pos rfl)
  next => cases created

end Sender

end FrameLink

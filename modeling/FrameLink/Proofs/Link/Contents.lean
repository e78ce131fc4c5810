import FrameLink.Proofs.Link.Refusals
import FrameLink.Proofs.Link.RoundTrip

/-!
# What frames bring

Frames are encoded one after the other, and a receiver with the same session setup takes all their
packets in order. What it delivers is what went into the frames (`contents`), each payload under the
format that was named last (`Link.InStep.exists_packets`). A frame that is too long for its offsets
stops the encoding (`Sender.encodeAll_of_not_within`).
-/

namespace FrameLink

open FrameLink.Receiver (Answer)
open FrameLink.Sender (greatestFrame)

/-! ## Contents -/

/-- What a frame is sent for, whatever version its format has on the wire. -/
inductive Content where
  | media (payload : Bytes) (flags : FrameFlags) (timestamp : UInt32)
      (descriptor : FormatDescriptor)
  | event (event : Event)
  deriving DecidableEq, Repr

/-- What was delivered. -/
def Delivery.content : Delivery → Content
  | .frame received =>
      .media received.payload received.flags received.timestamp received.descriptor
  | .event received => .event received

/-- What a frame brings where this format is in force. It brings nothing where it has neither an
event nor a payload, or a payload of which nobody knows the format. -/
def Frame.content? (frame : Frame) (known : Option FormatDescriptor) : Option Content :=
  match frame.event, frame.payload, known with
  | some event, _, _ => some (.event event)
  | none, [], _ => none
  | none, _ :: _, none => none
  | none, _ :: _, some descriptor =>
      some (.media frame.payload frame.flags frame.timestamp descriptor)

/-- What frames bring in turn. A format is in force from the frame on that names it. -/
def contents (known : Option FormatDescriptor) : List Frame → List Content
  | [] => []
  | frame :: rest =>
      (frame.content? (frame.descriptor.or known)).toList ++
        contents (frame.descriptor.or known) rest

/-- Frames that name no format all come under the same one. -/
theorem contents_of_unnamed {known : Option FormatDescriptor} {frames : List Frame}
    (unnamed : ∀ frame ∈ frames, frame.descriptor = none) :
    contents known frames = frames.filterMap (Frame.content? · known) := by
  induction frames with
  | nil => rfl
  | cons frame rest ih =>
      obtain ⟨first, others⟩ := List.forall_mem_cons.1 unnamed
      rw [contents, first, Option.none_or, ih others, List.filterMap_cons]
      cases frame.content? known with
      | none => rfl
      | some content => rfl

/-- Where the first frame alone may name a format, all come under that one. -/
theorem contents_of_named_first {known named : Option FormatDescriptor} {frames : List Frame}
    (first : ∀ index frame, frames[index]? = some frame →
      frame.descriptor = if index = 0 then named else none) :
    contents known frames = frames.filterMap (Frame.content? · (named.or known)) := by
  cases frames with
  | nil => rfl
  | cons frame rest =>
      have own : frame.descriptor = named := first 0 frame rfl
      have others : ∀ other ∈ rest, other.descriptor = none := by
        intro other member
        obtain ⟨index, there⟩ := List.mem_iff_getElem?.1 member
        exact first (index + 1) other there
      rw [contents, own, contents_of_unnamed others, List.filterMap_cons]
      cases frame.content? (named.or known) with
      | none => rfl
      | some content => rfl

/-- What the answers to the packets of a frame deliver. -/
theorem content_of_answered {frame : Frame} {version : FormatVersion}
    {known : Option FormatDescriptor} {answers : List Answer}
    (answered : Answered frame version known answers) :
    (deliveries answers).map Delivery.content = (frame.content? known).toList := by
  obtain ⟨quiet, changed, rfl⟩ := answered
  unfold Frame.content?
  cases frame.event with
  | some event =>
      rw [deliveries_of_last]
      rfl
  | none =>
      cases frame.payload with
      | nil =>
          rw [List.append_nil, deliveries_of_quiet]
          rfl
      | cons byte rest =>
          cases known with
          | none =>
              rw [deliveries_of_last]
              rfl
          | some descriptor =>
              rw [deliveries_of_last]
              rfl

/-! ## Encoding and taking frames -/

namespace Sender

/-- Encodes frames one after the other, until one is refused. -/
def encodeAll (sender : Sender) : List Frame → Except FrameError (List Packet) × Sender
  | [] => (.ok [], sender)
  | frame :: rest =>
      match sender.encode frame with
      | (.error error, after) => (.error error, after)
      | (.ok packets, after) =>
          ((after.encodeAll rest).1.map (packets ++ ·), (after.encodeAll rest).2)

section

variable {sender after : Sender} {frame : Frame}

theorem encodeAll_of_refused {error : FrameError}
    (refused : sender.encode frame = (.error error, after)) (rest : List Frame) :
    sender.encodeAll (frame :: rest) = (.error error, after) := by
  simp only [encodeAll, refused]

theorem encodeAll_of_encoded {packets : List Packet}
    (encoded : sender.encode frame = (.ok packets, after)) (rest : List Frame) :
    sender.encodeAll (frame :: rest) =
      ((after.encodeAll rest).1.map (packets ++ ·), (after.encodeAll rest).2) := by
  simp only [encodeAll, encoded]

end

/-- Whether every frame, its announcement included, is within so many bytes when it is encoded. -/
def Within (most : Nat) (sender : Sender) : List Frame → Prop
  | [] => True
  | frame :: rest =>
      ((sender.adopt frame).serialize frame).length ≤ most ∧
        Within most (sender.encode frame).2 rest

instance decidableWithin (most : Nat) (sender : Sender) :
    (frames : List Frame) → Decidable (sender.Within most frames)
  | [] => inferInstanceAs (Decidable True)
  | frame :: rest =>
      have : Decidable ((sender.encode frame).2.Within most rest) := decidableWithin most _ rest
      inferInstanceAs (Decidable (_ ∧ _))

/-- Where some frame is too long for its offsets, the encoding stops there. -/
theorem encodeAll_of_not_within {sender : Sender} {frames : List Frame}
    (tooLong : ¬sender.Within greatestFrame frames) :
    ∃ size after, greatestFrame < size ∧
      sender.encodeAll frames = (.error (.frameTooLarge size greatestFrame), after) := by
  induction frames generalizing sender with
  | nil => exact absurd trivial tooLong
  | cons frame rest ih =>
      rcases Nat.lt_or_ge greatestFrame ((sender.adopt frame).serialize frame).length with
        long | short
      · exact ⟨_, _, long, encodeAll_of_refused (encode_of_long long) rest⟩
      · have encoded := encode_of_short short
        have later : ¬(sender.adopt frame).settled.Within greatestFrame rest := by
          intro others
          apply tooLong
          rw [Within, encoded]
          exact ⟨short, others⟩
        obtain ⟨size, after, long, refused⟩ := ih later
        refine ⟨size, after, long, ?_⟩
        rw [encodeAll_of_encoded encoded, refused]
        rfl

end Sender

namespace Link

variable {most : Nat} {known : Option FormatDescriptor} {link : Link}

/-- Frames that are within what the receiver takes, and short enough for their offsets, bring it
what went into them. -/
theorem InStep.exists_packets (inStep : InStep most known link) {frames : List Frame}
    (within : link.sender.Within most frames) (short : link.sender.Within greatestFrame frames) :
    ∃ packets after, link.sender.encodeAll frames = (.ok packets, after) ∧
      (deliveries (link.receiver.acceptAll packets).1).map Delivery.content =
        contents known frames := by
  induction frames generalizing known link with
  | nil => exact ⟨[], link.sender, rfl, rfl⟩
  | cons frame rest ih =>
      obtain ⟨fits, othersFit⟩ := within
      obtain ⟨addressed, othersShort⟩ := short
      obtain ⟨packets, sender, encoded, answered, next⟩ := inStep.send fits addressed
      rw [encoded] at othersFit othersShort
      obtain ⟨further, after, encodedRest, told⟩ := ih next othersFit othersShort
      have all := Sender.encodeAll_of_encoded encoded rest
      rw [encodedRest] at all
      refine ⟨packets ++ further, after, all, ?_⟩
      rw [Receiver.acceptAll_append, deliveries_append, List.map_append,
        content_of_answered answered, told, contents]

end Link

end FrameLink

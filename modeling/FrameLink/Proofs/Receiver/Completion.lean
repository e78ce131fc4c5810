import FrameLink.Proofs.Encoding.Utf8
import FrameLink.Proofs.Encoding.Varint
import FrameLink.Receiver.Basic
import FrameLink.Sender.Basic

/-!
# Reading a whole frame

What a sender wrote for a frame is read as the announcement, where one was due, and then as the
event or the payload of the frame. What a receiver makes of it hangs on nothing but the formats
that it has heard of (`Frame.verdict`), those of the frame itself included (`Sender.teach`).
-/

namespace FrameLink

open FrameLink.Sender (greatestFrame)

/-- The formats of one who heard the announcement that is due. -/
def Sender.teach (sender : Sender) (cache : FormatCache) : FormatCache :=
  match sender.due with
  | none => cache
  | some descriptor => cache.store sender.current descriptor

/-- The announcement that is due is known by its version, and everything else as before. -/
theorem Sender.lookup_teach_eq (sender : Sender) (known : FormatCache) (version : FormatVersion) :
    (sender.teach known).lookup version =
      (if sender.current = version then sender.due else none).or (known.lookup version) := by
  unfold teach
  cases sender.due with
  | none =>
      rw [ite_self]
      rfl
  | some descriptor =>
      rw [FormatCache.lookup_store]
      split
      next => rfl
      next => rfl

/-- What a frame comes to where these formats are known. -/
def Frame.verdict (frame : Frame) (version : FormatVersion) (known : FormatCache)
    (changed : Bool) : Receiver.Answer :=
  match frame.event with
  | some event => .ok (some (.event event))
  | none =>
      if frame.payload = [] then .ok none
      else
        match known.lookup version with
        | none => .error (.missingFormatVersion version.val)
        | some descriptor =>
            .ok (some (.frame {
              payload := frame.payload
              flags := frame.flags
              version
              descriptor
              formatChanged := changed
              timestamp := frame.timestamp }))

namespace Frame

variable {frame : Frame} {version : FormatVersion} {known : FormatCache} {changed : Bool}

theorem verdict_of_event {event : Event} (carried : frame.event = some event) :
    frame.verdict version known changed = .ok (some (.event event)) := by
  simp only [verdict, carried]

theorem verdict_of_empty (noEvent : frame.event = none) (empty : frame.payload = []) :
    frame.verdict version known changed = .ok none := by
  simp only [verdict, noEvent, if_pos empty]

theorem verdict_of_known {descriptor : FormatDescriptor} (noEvent : frame.event = none)
    (someByte : frame.payload ≠ []) (informed : known.lookup version = some descriptor) :
    frame.verdict version known changed =
      .ok (some (.frame {
        payload := frame.payload
        flags := frame.flags
        version
        descriptor
        formatChanged := changed
        timestamp := frame.timestamp })) := by
  simp only [verdict, noEvent, if_neg someByte, informed]

theorem verdict_of_unknown (noEvent : frame.event = none) (someByte : frame.payload ≠ [])
    (uninformed : known.lookup version = none) :
    frame.verdict version known changed = .error (.missingFormatVersion version.val) := by
  simp only [verdict, noEvent, if_neg someByte, uninformed]

end Frame

namespace Receiver

/-- A descriptor is read without the zero byte that was put behind it. -/
theorem withoutTerminator_concat (field : Bytes) : withoutTerminator (field ++ [0]) = field := by
  simp [withoutTerminator]

/-- An announcement is split off what it was put in front of. -/
theorem takeDescriptor_announcement (descriptor : FormatDescriptor) (rest : Bytes)
    (fits : (descriptor.bytes ++ [0]).length < Varint.limit) :
    takeDescriptor (Sender.announcement (some descriptor) ++ rest) = .ok (descriptor, rest) := by
  rw [takeDescriptor, Sender.announcement, Varint.takeField_encodeField rest fits]
  simp only [withoutTerminator_concat, FormatDescriptor.bytes, Utf8.decode_encode]

/-- An event is read as what was written. -/
theorem takeEvent_field (event : Event) (fits : (Utf8.encode event.body).length < Varint.limit) :
    takeEvent event.kind event.field = .ok event := by
  have alone := Varint.takeField_encodeField [] fits
  rw [List.append_nil] at alone
  rw [takeEvent, Event.field, alone]
  simp only [Event.ofBody, Utf8.decode_encode]

/-- Whether a receiver notices a change of format with a frame. -/
def notices (receiver : Receiver) (sender : Sender) : Bool :=
  receiver.active != some sender.current ||
    sender.due.any (replaces (receiver.cache.lookup sender.current))

/-- An announcement that is part of a frame has a length that can be read. -/
theorem length_announced_lt {sender : Sender} {frame : Frame} {descriptor : FormatDescriptor}
    (due : sender.due = some descriptor)
    (short : (sender.serialize frame).length ≤ greatestFrame) :
    (descriptor.bytes ++ [0]).length < Varint.limit := by
  have prefixed := Varint.length_lt_encodeField (descriptor.bytes ++ [0])
  simp only [Sender.serialize, due, Sender.announcement, List.length_append] at short prefixed ⊢
  simp only [greatestFrame, Varint.limit] at *
  omega

/-- Reading starts with the announcement that was due, and goes on with the body of the frame. -/
theorem complete_serialize (receiver : Receiver) (sender : Sender) (frame : Frame)
    (timestamp : UInt32) (short : (sender.serialize frame).length ≤ greatestFrame) :
    complete receiver (sender.header frame) timestamp (sender.serialize frame) =
      deliver { receiver with cache := sender.teach receiver.cache } (sender.header frame)
        timestamp (sender.due.any (replaces (receiver.cache.lookup sender.current)))
        frame.body := by
  cases due : sender.due with
  | none =>
      simp [complete, Sender.header, Sender.serialize, Sender.announcement, Sender.teach, due]
  | some descriptor =>
      have fits := length_announced_lt due short
      simp only [complete, Sender.header, Sender.serialize, due, Option.isSome_some, if_true,
        takeDescriptor_announcement descriptor frame.body fits, Sender.teach, Option.any_some]

/-- A frame is delivered as it was written, under the format that the receiver has for it. -/
theorem deliver_body (receiver : Receiver) (sender : Sender) (frame : Frame) (replaced : Bool)
    (short : (sender.serialize frame).length ≤ greatestFrame) :
    ∃ active,
      deliver receiver (sender.header frame) frame.timestamp replaced frame.body =
        (frame.verdict sender.current receiver.cache
            (receiver.active != some sender.current || replaced),
          { receiver with active }) := by
  cases carried : frame.event with
  | some event =>
      have fits : (Utf8.encode event.body).length < Varint.limit := by
        have written := Varint.length_lt_encodeField (Utf8.encode event.body)
        simp only [Sender.serialize, Frame.body, carried, Event.field, List.length_append] at short
        simp only [greatestFrame, Varint.limit] at *
        omega
      refine ⟨receiver.active, ?_⟩
      simp only [deliver, Sender.header, PacketHeader.eventKind, Frame.eventType, Frame.body,
        carried, EventKind.ofByte_toByte, takeEvent_field event fits, Frame.verdict]
      rfl
  | none =>
      have noEvent : EventKind.ofByte 0 = .ok none := rfl
      by_cases empty : frame.payload = []
      · refine ⟨receiver.active, ?_⟩
        simp [deliver, Sender.header, PacketHeader.eventKind, Frame.eventType, Frame.body, carried,
          noEvent, Frame.verdict, empty]
      · cases known : receiver.cache.lookup sender.current with
        | none =>
            refine ⟨receiver.active, ?_⟩
            simp [deliver, Sender.header, PacketHeader.eventKind, Frame.eventType, Frame.body,
              carried, noEvent, Frame.verdict, empty, known]
        | some descriptor =>
            refine ⟨some sender.current, ?_⟩
            simp [deliver, Sender.header, PacketHeader.eventKind, Frame.eventType, Frame.body,
              carried, noEvent, Frame.verdict, empty, known]

/-- What a frame that arrived whole comes to, and what the receiver knows afterwards. -/
theorem complete_frame (receiver : Receiver) (sender : Sender) (frame : Frame)
    (short : (sender.serialize frame).length ≤ greatestFrame) :
    ∃ active,
      complete receiver (sender.header frame) frame.timestamp (sender.serialize frame) =
        (frame.verdict sender.current (sender.teach receiver.cache) (receiver.notices sender),
          { receiver with cache := sender.teach receiver.cache, active }) := by
  rw [complete_serialize receiver sender frame frame.timestamp short]
  exact deliver_body { receiver with cache := sender.teach receiver.cache } sender frame _ short

end Receiver

end FrameLink

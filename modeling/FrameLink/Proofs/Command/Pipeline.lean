import FrameLink.Command.Frames
import FrameLink.Proofs.Link.Contents
import FrameLink.Session.Basic
import Mathlib.Data.List.Basic

/-!
# From a plan to what is received

The text of an event is read back as what it was written from, whatever the body (`readEvent_name`).
The frames of a plan are those of its payload and then that of its event, and only the first of them
names a format (`FramePlan.Lays`). A receiver with the same session gets the payload and the event
out of their packets (`FramePlan.frames_transferred`).
-/

namespace FrameLink

/-- A frame without the name of its format. -/
def Frame.unnamed (frame : Frame) : Frame :=
  { frame with descriptor := none }

theorem Frame.unnamed_of_descriptor {frame : Frame} (unnamed : frame.descriptor = none) :
    frame.unnamed = frame := by
  rw [Frame.unnamed, ← unnamed]

namespace Command

open FrameLink.Sender (greatestFrame)

/-! ## The text of an event -/

/-- Text is split at its first colon; there may be more of them behind it. -/
theorem splitColon?_append {name : String} (plain : ':' ∉ name.toList) (body : String) :
    splitColon? (name ++ ":" ++ body) = some (name, body) := by
  have front : ∀ char ∈ name.toList, (char != ':') = true := by
    intro char member
    exact bne_iff_ne.2 (ne_of_mem_of_not_mem member plain)
  have chars : (name ++ ":" ++ body).toList = name.toList ++ ':' :: body.toList := by
    rw [String.toList_append, String.toList_append, List.append_assoc]
    rfl
  have before : (name.toList ++ ':' :: body.toList).takeWhile (· != ':') = name.toList := by
    rw [List.takeWhile_append_of_pos front]
    exact List.append_nil _
  have behind : (name.toList ++ ':' :: body.toList).dropWhile (· != ':') = ':' :: body.toList := by
    rw [List.dropWhile_append_of_pos front]
    rfl
  simp only [splitColon?, chars, before, behind, String.ofList_toList]

/-- The text of an event stands for it. -/
theorem readEvent_name (kind : EventKind) (body : String) :
    readEvent (kind.name ++ ":" ++ body) = .ok ⟨kind, body⟩ := by
  have plain : ':' ∉ kind.name.toList := by
    cases kind <;> decide
  have known : EventKind.ofName kind.name = .ok kind := by
    cases kind <;> decide
  simp only [readEvent, splitColon?_append plain, known]

namespace FramePlan

/-! ## The frames of a plan -/

/-- The frames of the payload of a plan. -/
structure Media (plan : FramePlan) (media : List Frame) : Prop where
  payload : (media.map Frame.payload).flatten = plan.payload
  empty_iff : media = [] ↔ plan.payload = []
  someByte : ∀ frame ∈ media, 0 < frame.payload.length
  /-- Where frames have a size, only the last one may be shorter. -/
  sized : ∀ size, plan.frameSize = some size → ∀ index frame, media[index]? = some frame →
    frame.payload.length ≤ size ∧ (index + 1 < media.length → frame.payload.length = size)
  /-- Where they have none, there is one frame at the most. -/
  whole : plan.frameSize = none → plan.payload ≠ [] → media.length = 1
  timestamp : ∀ index frame, media[index]? = some frame →
    frame.timestamp.toNat = plan.timestampStep.toNat * index % UInt32.size
  /-- Where a plan says so, every frame but the first depends on others. -/
  flags : ∀ index frame, media[index]? = some frame →
    frame.flags = if plan.delta ∧ 0 < index then .delta else .none
  event : ∀ frame ∈ media, frame.event = none
  descriptor : ∀ frame ∈ media, frame.descriptor = none

/-- What stands behind the frames of the payload: the event, or an empty frame for a format that
would have none to go with. -/
def rear (plan : FramePlan) (media : List Frame) : List Frame :=
  match plan.event, media, plan.descriptor with
  | some event, _, _ => [{ Frame.blank with event := some event }]
  | none, [], some _ => [Frame.blank]
  | none, _, _ => []

/-- How the frames of a plan are laid out. -/
structure Lays (plan : FramePlan) (front frames : List Frame) : Prop where
  media : plan.Media front
  order : frames.map Frame.unnamed = front ++ plan.rear front
  /-- The first frame names the format, where one is given, and no other frame names any. -/
  named : ∀ index frame, frames[index]? = some frame →
    frame.descriptor = if index = 0 then plan.descriptor.map FormatDescriptor.mk else none

section

variable {plan : FramePlan}

theorem getElem?_payloadFrames (plan : FramePlan) (start : Nat) (pieces : List Bytes)
    (index : Nat) :
    (plan.payloadFrames start pieces)[index]? =
      pieces[index]?.map (plan.payloadFrame (start + index)) := by
  induction pieces generalizing start index with
  | nil => rfl
  | cons piece rest ih =>
      cases index with
      | zero => rfl
      | succ index =>
          rw [payloadFrames, List.getElem?_cons_succ, List.getElem?_cons_succ, ih,
            Nat.add_assoc, Nat.add_comm 1]

theorem payloads_payloadFrames (plan : FramePlan) (start : Nat) (pieces : List Bytes) :
    (plan.payloadFrames start pieces).map Frame.payload = pieces := by
  induction pieces generalizing start with
  | nil => rfl
  | cons piece rest ih => exact congrArg (piece :: ·) (ih (start + 1))

theorem length_payloadFrames (plan : FramePlan) (start : Nat) (pieces : List Bytes) :
    (plan.payloadFrames start pieces).length = pieces.length := by
  rw [← List.length_map, payloads_payloadFrames]

/-- The frame at a place, and the piece that it is made from. -/
theorem exists_piece {pieces : List Bytes} {index : Nat} {frame : Frame}
    (there : (plan.payloadFrames 0 pieces)[index]? = some frame) :
    ∃ piece, pieces[index]? = some piece ∧ plan.payloadFrame index piece = frame := by
  rw [getElem?_payloadFrames, Nat.zero_add, Option.map_eq_some_iff] at there
  exact there

theorem exists_piece_of_mem {pieces : List Bytes} {frame : Frame}
    (member : frame ∈ plan.payloadFrames 0 pieces) :
    ∃ index piece, piece ∈ pieces ∧ plan.payloadFrame index piece = frame := by
  obtain ⟨index, there⟩ := List.mem_iff_getElem?.1 member
  obtain ⟨piece, cut, same⟩ := exists_piece there
  exact ⟨index, piece, List.mem_of_getElem? cut, same⟩

/-- The size to which the payload is cut. -/
def cut (plan : FramePlan) : Nat :=
  plan.frameSize.getD (max plan.payload.length 1)

/-- Where frames have no size, all of the payload fits one. -/
theorem le_cut (unsized : plan.frameSize = none) : plan.payload.length ≤ plan.cut := by
  rw [cut, unsized]
  exact Nat.le_max_left _ _

theorem frames_eq (sized : plan.frameSize ≠ some 0) :
    0 < plan.cut ∧ plan.frames = .ok (plan.framesOf plan.cut) := by
  unfold frames cut
  cases given : plan.frameSize with
  | none => exact ⟨Nat.lt_of_lt_of_le Nat.one_pos (Nat.le_max_right _ _), rfl⟩
  | some size =>
      cases size with
      | zero => exact absurd given sized
      | succ size => exact ⟨size.succ_pos, rfl⟩

theorem media_payloadFrames (positive : 0 < plan.cut) :
    plan.Media (plan.payloadFrames 0 (Bytes.pieces plan.cut plan.payload)) where
  payload := by
    rw [payloads_payloadFrames, Bytes.flatten_pieces positive]
  empty_iff := by
    rw [← List.map_eq_nil_iff (f := Frame.payload), payloads_payloadFrames, ← List.isEmpty_iff,
      Bytes.isEmpty_pieces positive, List.isEmpty_iff]
  someByte := by
    intro frame member
    obtain ⟨index, piece, cut, rfl⟩ := exists_piece_of_mem member
    exact (Bytes.length_of_mem_pieces cut).1
  sized := by
    intro size given index frame there
    obtain ⟨piece, cut, rfl⟩ := exists_piece there
    have same : size = plan.cut := by
      rw [FramePlan.cut, given]
      rfl
    rw [same, length_payloadFrames]
    constructor
    · exact (Bytes.length_of_mem_pieces (List.mem_of_getElem? cut)).2
    · exact Bytes.length_of_getElem?_pieces cut
  whole := by
    intro unsized someByte
    rw [Bytes.pieces_of_length_le someByte (le_cut unsized)]
    rfl
  timestamp := by
    intro index frame there
    obtain ⟨piece, _, rfl⟩ := exists_piece there
    rw [payloadFrame, UInt32.toNat_mul, UInt32.toNat_ofNat', Nat.mul_mod_mod]
  flags := by
    intro index frame there
    obtain ⟨piece, _, rfl⟩ := exists_piece there
    simp [payloadFrame]
  event := by
    intro frame member
    obtain ⟨index, piece, _, rfl⟩ := exists_piece_of_mem member
    rfl
  descriptor := by
    intro frame member
    obtain ⟨index, piece, _, rfl⟩ := exists_piece_of_mem member
    rfl

theorem unnamed_withDescriptor {front : List Frame}
    (unnamed : ∀ frame ∈ front, frame.descriptor = none) :
    (withDescriptor plan.descriptor (front ++ (plan.event.map eventFrame).toList)).map
      Frame.unnamed = front ++ plan.rear front := by
  unfold rear
  cases front with
  | nil => cases plan.event <;> cases plan.descriptor <;> rfl
  | cons first rest =>
      have own : (first :: rest).map Frame.unnamed = first :: rest := by
        rw [List.map_congr_left (g := id), List.map_id]
        intro frame member
        exact Frame.unnamed_of_descriptor (unnamed frame member)
      have same (frames : List Frame) :
          (withDescriptor plan.descriptor (first :: frames)).map Frame.unnamed =
            (first :: frames).map Frame.unnamed := by
        cases plan.descriptor <;> rfl
      rw [List.cons_append, same, ← List.cons_append, List.map_append, own]
      cases plan.event <;> rfl

theorem descriptor_withDescriptor {descriptor : Option String} {frames : List Frame}
    (unnamed : ∀ frame ∈ frames, frame.descriptor = none) {index : Nat} {frame : Frame}
    (there : (withDescriptor descriptor frames)[index]? = some frame) :
    frame.descriptor = if index = 0 then descriptor.map FormatDescriptor.mk else none := by
  cases descriptor with
  | none =>
      rw [unnamed frame (List.mem_of_getElem? there)]
      split <;> rfl
  | some text =>
      cases frames with
      | nil =>
          cases index with
          | zero =>
              cases there
              rfl
          | succ index => cases there
      | cons first rest =>
          cases index with
          | zero =>
              cases there
              rfl
          | succ index => exact unnamed frame (List.mem_cons_of_mem _ (List.mem_of_getElem? there))

/-- A size other than zero, or none, lays the frames out. -/
theorem exists_lays (sized : plan.frameSize ≠ some 0) :
    ∃ media frames, plan.frames = .ok frames ∧ plan.Lays media frames := by
  obtain ⟨positive, laid⟩ := frames_eq sized
  have media := media_payloadFrames positive
  refine ⟨_, _, laid, media, unnamed_withDescriptor media.descriptor, ?_⟩
  intro index frame there
  apply descriptor_withDescriptor _ there
  intro other member
  rcases List.mem_append.1 member with front | back
  · exact media.descriptor other front
  · obtain ⟨event, _, rfl⟩ := Option.map_eq_some_iff.1 (Option.mem_toList.1 back)
    rfl

/-! ## What the frames bring -/

theorem Media.filterMap_content? {front : List Frame} (media : plan.Media front)
    (format : FormatDescriptor) :
    front.filterMap (Frame.content? · (some format)) =
      front.map fun frame => .media frame.payload frame.flags frame.timestamp format := by
  apply List.filterMap_eq_map_iff_forall_eq_some.2
  intro frame member
  obtain ⟨byte, rest, bytes⟩ := List.exists_cons_of_length_pos (media.someByte frame member)
  simp only [Frame.content?, media.event frame member, bytes]

theorem filterMap_content?_rear (front : List Frame) (known : Option FormatDescriptor) :
    (plan.rear front).filterMap (Frame.content? · known) =
      (plan.event.map Content.event).toList := by
  unfold rear
  cases plan.event with
  | some event => rfl
  | none =>
      cases front with
      | nil => cases plan.descriptor <;> rfl
      | cons first rest => rfl

/-- The frames of a plan bring its payload, all of it under one format, and then its event. -/
theorem Lays.contents_eq {front frames : List Frame} (lays : plan.Lays front frames)
    {initial : Option FormatDescriptor} {format : FormatDescriptor}
    (known : (plan.descriptor.map FormatDescriptor.mk).or initial = some format) :
    contents initial frames =
      (front.map fun frame => .media frame.payload frame.flags frame.timestamp format) ++
        (plan.event.map Content.event).toList := by
  rw [contents_of_named_first lays.named, known, ← lays.media.filterMap_content?,
    ← filterMap_content?_rear front (some format), ← List.filterMap_append, ← lays.order,
    List.filterMap_map]
  rfl

end

/-- For every plan whose frames have a size other than zero, or none: its frames are laid out as
they should be, and an event among them is the one that its text stands for. A receiver with the
same session, where the plan or the session names a format, gets all of it out of their packets,
provided that every frame with its announcement is within what the receiver takes and short enough
for its offsets. -/
theorem frames_transferred (plan : FramePlan) (sized : plan.frameSize ≠ some 0) :
    (∀ event, plan.event = some event →
      readEvent (event.kind.name ++ ":" ++ event.body) = .ok event) ∧
    ∃ media frames, plan.frames = .ok frames ∧ plan.Lays media frames ∧
      ∀ (session : Session) (mtu most : Nat) (format : String),
        PacketHeader.size < mtu →
        plan.descriptor.or session.descriptor = some format →
        ∃ sender, Sender.create { session.senderConfig with mtu } = .ok sender ∧
          (sender.Within most frames → sender.Within greatestFrame frames →
            ∃ packets after, sender.encodeAll frames = (.ok packets, after) ∧
              (deliveries ((Receiver.create
                { session.receiverConfig with maxFrameSize := most }).acceptAll
                  packets).1).map Delivery.content =
                (media.map fun frame =>
                  .media frame.payload frame.flags frame.timestamp ⟨format⟩) ++
                  (plan.event.map Content.event).toList) := by
  constructor
  · intro event _
    exact readEvent_name event.kind event.body
  · obtain ⟨media, frames, laid, lays⟩ := exists_lays sized
    refine ⟨media, frames, laid, lays, ?_⟩
    intro session mtu most format roomy known
    have room : PacketHeader.size < { session.senderConfig with mtu }.mtu := roomy
    have inForce :
        (plan.descriptor.map FormatDescriptor.mk).or session.initial = some ⟨format⟩ := by
      rw [Session.initial, ← Option.map_or, known]
      rfl
    obtain ⟨sender, created, _, announced, _, _⟩ := Sender.create_of_roomy room
    refine ⟨sender, created, ?_⟩
    intro within short
    rw [← lays.contents_eq inForce]
    exact (Link.inStep_create created most announced).exists_packets within short

/-- Three frames and an event with a colon in its body. The clock wraps at the third frame. -/
theorem frames_transferred_wrapping :
    let event : Event := ⟨.tag, "a:b"⟩
    let plan : FramePlan := ⟨[1, 2, 3, 4, 5], some 2, true, 0x80000001, some "video", some event⟩
    let session : Session := ⟨some "setup", 1400, 90000⟩
    plan.frameSize ≠ some 0 ∧ readEvent "tag:a:b" = .ok event ∧
      ∃ frames sender packets after, plan.frames = .ok frames ∧
        Sender.create { session.senderConfig with mtu := 10 } = .ok sender ∧
        sender.encodeAll frames = (.ok packets, after) ∧
        (deliveries ((Receiver.create { session.receiverConfig with maxFrameSize := 64 }).acceptAll
          packets).1).map Delivery.content = [
            .media [1, 2] .none 0 ⟨"video"⟩,
            .media [3, 4] .delta 0x80000001 ⟨"video"⟩,
            .media [5] .delta 2 ⟨"video"⟩,
            .event event] := by
  intro event plan session
  have sized : plan.frameSize ≠ some 0 := by decide
  obtain ⟨readBack, media, frames, laid, lays, transferred⟩ := frames_transferred plan sized
  obtain ⟨sender, created, comesOut⟩ := transferred session 10 64 "video" (by decide) rfl
  have front : media = [
      { Frame.blank with payload := [1, 2] },
      { Frame.blank with payload := [3, 4], flags := .delta, timestamp := 0x80000001 },
      { Frame.blank with payload := [5], flags := .delta, timestamp := 2 }] := by
    have behind := congrArg List.dropLast lays.order
    rw [show plan.rear media = [{ Frame.blank with event := some event }] from rfl,
      List.dropLast_concat] at behind
    rw [← behind]
    cases laid
    decide +kernel
  have within : sender.Within 64 frames ∧ sender.Within greatestFrame frames := by
    cases laid
    cases created
    decide +kernel
  obtain ⟨packets, after, encoded, told⟩ := comesOut within.1 within.2
  rw [front] at told
  exact ⟨sized, readBack event rfl, frames, sender, packets, after, laid, created, encoded, told⟩

/-- The frames of a plan without an event whose payload is not cut. -/
theorem frames_of_unsized {plan : FramePlan} (unsized : plan.frameSize = none)
    (eventless : plan.event = none) (someByte : plan.payload ≠ []) :
    plan.frames = .ok (withDescriptor plan.descriptor [plan.payloadFrame 0 plan.payload]) := by
  have sized : plan.frameSize ≠ some 0 := by
    rw [unsized]
    exact Option.some_ne_none 0 |>.symm
  rw [(frames_eq sized).2, framesOf, Bytes.pieces_of_length_le someByte (le_cut unsized), eventless]
  rfl

/-- A frame of 2 ^ 32 bytes is too long for its offsets, so it is refused whatever the receiver
would take; and where the receiver takes one byte, a payload of one byte is too much next to an
announcement. -/
theorem untransferred_within_most :
    (let plan : FramePlan := ⟨List.replicate 4294967296 0, none, false, 0, none, none⟩
      let session : Session := ⟨some "v", 1400, 90000⟩
      ∃ frame sender, plan.frames = .ok [frame] ∧ frame.payload.length = 4294967296 ∧
        Sender.create session.senderConfig = .ok sender ∧ sender.Within 4294967296 [frame] ∧
        sender.encodeAll [frame] =
          (.error (.frameTooLarge 4294967296 4294967295), sender)) ∧
    (let plan : FramePlan := ⟨[1], none, false, 0, some "v", none⟩
      let session : Session := ⟨none, 1400, 90000⟩
      ∃ frame sender packets after, plan.frames = .ok [frame] ∧ frame.payload.length = 1 ∧
        Sender.create session.senderConfig = .ok sender ∧
        sender.encodeAll [frame] = (.ok packets, after) ∧
        ((Receiver.create { session.receiverConfig with maxFrameSize := 1 }).acceptAll packets).1 =
          [.error (.frameTooLarge 4 1)]) := by
  constructor
  · -- The payload is never computed; its length is all that is known of it.
    have length : (List.replicate 4294967296 (0 : UInt8)).length = 4294967296 :=
      List.length_replicate
    generalize List.replicate 4294967296 (0 : UInt8) = payload at length ⊢
    intro plan session
    have someByte : payload ≠ [] := by
      rintro rfl
      cases length
    obtain ⟨sender, created, _, _, _, settled⟩ :=
      @Sender.create_of_roomy session.senderConfig (by decide)
    have bytes : (sender.adopt (plan.payloadFrame 0 payload)).serialize
        (plan.payloadFrame 0 payload) = payload := by
      rw [Sender.serialize, Sender.adopt, payloadFrame, settled]
      rfl
    refine ⟨plan.payloadFrame 0 payload, sender, frames_of_unsized rfl rfl someByte, length,
      created, ⟨Nat.le_of_eq ?_, trivial⟩, ?_⟩
    · rw [bytes, length]
    · have long : greatestFrame < payload.length := by
        rw [length]
        decide
      have refused := @Sender.encode_of_long sender (plan.payloadFrame 0 payload)
        (bytes.symm ▸ long)
      rw [bytes, length] at refused
      exact Sender.encodeAll_of_refused refused []
  · intro plan session
    obtain ⟨sender, created, _⟩ := @Sender.create_of_roomy session.senderConfig (by decide)
    let frame : Frame := { Frame.blank with payload := [1], descriptor := some ⟨"v"⟩ }
    let packet : Packet := ⟨⟨true, 1, .none, 0, 0⟩, true, false, 0, [2, 118, 0, 1]⟩
    have encoded : (sender.encodeAll [frame]).1 = .ok [packet] := by
      cases created
      decide +kernel
    refine ⟨frame, sender, [packet], (sender.encodeAll [frame]).2,
      frames_of_unsized rfl rfl (List.cons_ne_nil _ _), rfl, created, Prod.ext encoded rfl, ?_⟩
    decide +kernel

end FramePlan

end Command

end FrameLink

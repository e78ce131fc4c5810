import FrameLink.Proofs.Link.RoundTrip
import FrameLink.Proofs.Sender.Partition

/-!
# A stray packet

A packet that stands where no bytes end is answered with a mismatch, and costs the frame that is
under way: behind it no other fragment of that frame can be taken for a start
(`acceptAll_astray`). The next frame is delivered, wherever the stray packet came
(`acceptAll_stray`).
-/

namespace FrameLink

open FrameLink.Sender (greatestFrame)
open FrameLink.Receiver (Answer carried)

namespace Receiver

/-- The answer to a packet that stands where no bytes end, while so many are at hand. -/
def mismatch (held : Nat) (packet : Packet) : Answer :=
  .error (.fragmentMismatch held packet.header.offset.toNat)

/-- A packet that stands where no bytes end is refused, and what is at hand is dropped. -/
theorem accept_stray {receiver : Receiver} {stray : Packet} (someByte : stray.payload ≠ [])
    (plain : stray.discont = false)
    (elsewhere : stray.header.offset.toNat ≠ receiver.pending.size)
    (short : receiver.pending.size ≤ greatestOffset) :
    receiver.accept stray = (mismatch receiver.pending.size stray, receiver.discard) := by
  have meets : receiver.meets stray = receiver.pending.toBytes := meets_of_plain plain
  have length : (receiver.meets stray).length = receiver.pending.size := by
    rw [meets, Gathered.length_toBytes]
  rw [accept_meeting, gather_holding _ _ _ someByte, length, if_pos elsewhere, holding_nil,
    Nat.min_eq_left short, mismatch]

/-- A receiver that waits for a frame is left as it was by a packet that does not stand at the
start. -/
theorem accept_stray_of_waiting {receiver : Receiver} (waiting : receiver.pending = .empty)
    {stray : Packet} (someByte : stray.payload ≠ []) (plain : stray.discont = false)
    (behind : stray.header.offset.toNat ≠ 0) :
    receiver.accept stray = (mismatch 0 stray, receiver) := by
  have size := size_of_waiting waiting
  rw [← size] at behind
  have refused := accept_stray someByte plain behind (size ▸ Nat.zero_le _)
  rw [discard, ← waiting, size] at refused
  exact refused

/-- It refuses all packets that do not stand at the start. -/
theorem acceptAll_astray {receiver : Receiver} (waiting : receiver.pending = .empty)
    {packets : List Packet}
    (astray : ∀ packet ∈ packets, packet.payload ≠ [] ∧ packet.discont = false ∧
      packet.header.offset.toNat ≠ 0) :
    receiver.acceptAll packets = (packets.map (mismatch 0), receiver) := by
  induction packets with
  | nil => rfl
  | cons packet rest ih =>
      obtain ⟨⟨someByte, plain, behind⟩, others⟩ := List.forall_mem_cons.1 astray
      have refused := accept_stray_of_waiting waiting someByte plain behind
      rw [acceptAll_cons refused, ih others, List.map_cons]

/-- A packet in between leaves those in front of it and those behind it to themselves. -/
theorem acceptAll_around {receiver held after : Receiver} {front : List Packet} {packet : Packet}
    {answers : List Answer} {answer : Answer} (led : receiver.acceptAll front = (answers, held))
    (accepted : held.accept packet = (answer, after)) (back others : List Packet) :
    (receiver.acceptAll (front ++ packet :: back ++ others)).1 =
      answers ++ answer :: (after.acceptAll back).1 ++
        ((after.acceptAll back).2.acceptAll others).1 := by
  rw [acceptAll_append, acceptAll_append, led]
  simp only [acceptAll_cons accepted]

/-- Where nothing is at hand, a stray packet changes nothing but that it is answered itself. -/
theorem acceptAll_stray_of_waiting {receiver : Receiver} {packets : List Packet} {count : Nat}
    (waiting : (receiver.acceptAll (packets.take count)).2.pending = .empty)
    (inside : count ≤ packets.length) {stray : Packet} (someByte : stray.payload ≠ [])
    (plain : stray.discont = false) (behind : stray.header.offset.toNat ≠ 0)
    (others : List Packet) :
    (receiver.acceptAll (packets.take count ++ stray :: packets.drop count ++ others)).1 =
      (receiver.acceptAll packets).1.take count ++ mismatch 0 stray ::
        (receiver.acceptAll packets).1.drop count ++
          ((receiver.acceptAll packets).2.acceptAll others).1 := by
  have length : (receiver.acceptAll (packets.take count)).1.length = count := by
    rw [length_acceptAll, List.length_take, Nat.min_eq_left inside]
  have split := receiver.acceptAll_append (packets.take count) (packets.drop count)
  rw [List.take_append_drop] at split
  rw [split, List.take_left' length, List.drop_left' length]
  exact acceptAll_around rfl (accept_stray_of_waiting waiting someByte plain behind) _ others

end Receiver

/-- A frame that a sender encodes for a receiver: with something to deliver, no longer than the
receiver allows, and of a format that is known there or comes with the frame. -/
structure Deliverable (receiver : Receiver) (sender : Sender) (frame : Frame)
    (packets : List Packet) (after : Sender) (descriptor : FormatDescriptor) : Prop where
  encoded : sender.encode frame = (.ok packets, after)
  carries : frame.event ≠ none ∨ frame.payload ≠ []
  fits : (carried packets).length ≤ receiver.config.maxFrameSize
  known : (sender.adopt frame).due.or (receiver.cache.lookup after.current) = some descriptor

namespace Deliverable

variable {receiver : Receiver} {sender after : Sender} {frame : Frame} {packets : List Packet}
variable {descriptor : FormatDescriptor}

/-- A receiver that waits for a frame delivers it, and has then heard of its format. -/
theorem acceptAll (deliverable : Deliverable receiver sender frame packets after descriptor)
    (waiting : receiver.pending = .empty) :
    Answered frame after.current (some descriptor) (receiver.acceptAll packets).1 ∧
      ∃ active, (receiver.acceptAll packets).2 =
        { receiver with cache := (sender.adopt frame).teach receiver.cache, active } := by
  obtain ⟨encoded, carries, fits, known⟩ := deliverable
  obtain ⟨rfl, rfl, short⟩ := Sender.fragments_of_encode encoded
  rw [Sender.carried_fragments] at fits
  obtain ⟨active, accepted⟩ := Receiver.acceptOver_fragments (fun _ => false) receiver
    (sender.adopt frame) frame 0 (Sender.serialize_ne_nil carries) (fun _ _ => rfl) fits short
  rw [Receiver.acceptOver_of_kept (fun _ _ => rfl),
    Receiver.holding_nil_of_waiting waiting] at accepted
  rw [accepted]
  constructor
  · apply answered_of_known
    have informed := Sender.lookup_teach_eq (sender.adopt frame) receiver.cache
      (sender.adopt frame).current
    rw [if_pos rfl] at informed
    exact informed.trans known
  · exact ⟨active, rfl⟩

/-- What is in force makes no difference to whether a frame can be delivered. -/
theorem inForce (deliverable : Deliverable receiver sender frame packets after descriptor)
    (active : Option FormatVersion) :
    Deliverable { receiver with active } sender frame packets after descriptor where
  encoded := deliverable.encoded
  carries := deliverable.carries
  fits := deliverable.fits
  known := deliverable.known

/-- The front of a frame leaves its bytes at hand. -/
theorem acceptAll_front (deliverable : Deliverable receiver sender frame packets after descriptor)
    (waiting : receiver.pending = .empty) {count : Nat} (more : count < packets.length) :
    receiver.acceptAll (packets.take count) =
      (List.replicate count (.ok none), receiver.holding (carried (packets.take count))) := by
  obtain ⟨encoded, carries, fits, known⟩ := deliverable
  obtain ⟨rfl, rfl, short⟩ := Sender.fragments_of_encode encoded
  have inner : Receiver.Inner 0 (((sender.adopt frame).fragments frame).take count) := by
    apply Receiver.inner_packetsFrom
    · simpa using more
    · simpa using short
  have length : (((sender.adopt frame).fragments frame).take count).length = count := by
    rw [List.length_take, Nat.min_eq_left (Nat.le_of_lt more)]
  have shorter : (carried (((sender.adopt frame).fragments frame).take count)).length ≤
      receiver.config.maxFrameSize :=
    Nat.le_trans (Receiver.length_carried_take_le _ count) fits
  have held := @Receiver.acceptAll_inner receiver _ [] inner shorter
  rw [Receiver.holding_nil_of_waiting waiting, length, List.nil_append] at held
  exact held

/-- No more bytes of a frame can be at hand than an error can report. -/
theorem length_take_le (deliverable : Deliverable receiver sender frame packets after descriptor)
    (count : Nat) : (carried (packets.take count)).length ≤ Receiver.greatestOffset := by
  obtain ⟨rfl, _, short⟩ := Sender.fragments_of_encode deliverable.encoded
  rw [← Sender.carried_fragments] at short
  exact Nat.le_trans (Receiver.length_carried_take_le _ count) short

/-- Behind the front of a frame, no packet of it stands at the start. -/
theorem astray_drop (deliverable : Deliverable receiver sender frame packets after descriptor)
    {count : Nat} (positive : 0 < count) :
    ∀ packet ∈ packets.drop count, packet.payload ≠ [] ∧ packet.discont = false ∧
      packet.header.offset.toNat ≠ 0 := by
  obtain ⟨rfl, _, short⟩ := Sender.fragments_of_encode deliverable.encoded
  have partitions := Sender.partitions_fragments short
  intro packet behind
  have member := List.mem_of_mem_drop behind
  obtain ⟨index, there⟩ := List.mem_iff_getElem?.1 behind
  rw [List.getElem?_drop] at there
  refine ⟨?_, (partitions.alike packet member).2.2, ?_⟩
  · exact List.length_pos_iff.1 (partitions.filled packet member).1
  · rw [partitions.offset _ packet there]
    obtain ⟨first, rest, packets⟩ := List.exists_cons_of_ne_nil (List.ne_nil_of_mem member)
    obtain ⟨before, front⟩ := Nat.exists_eq_add_of_lt (Nat.add_pos_left positive index)
    have someByte := (partitions.filled first (by rw [packets]; exact List.mem_cons_self)).1
    rw [packets, front, List.take_succ_cons, Receiver.carried_cons, List.length_append]
    omega

/-- In the middle of a frame, a stray packet costs what is left of the frame, and nothing else. -/
theorem acceptAll_stray_within
    (deliverable : Deliverable receiver sender frame packets after descriptor)
    (waiting : receiver.pending = .empty) {count : Nat} (positive : 0 < count)
    (more : count < packets.length) {stray : Packet} (someByte : stray.payload ≠ [])
    (plain : stray.discont = false)
    (elsewhere : stray.header.offset.toNat ≠
      (receiver.acceptAll (packets.take count)).2.pending.size) (others : List Packet) :
    (receiver.acceptAll (packets.take count ++ stray :: packets.drop count ++ others)).1 =
      List.replicate count (.ok none) ++
        Receiver.mismatch (receiver.acceptAll (packets.take count)).2.pending.size stray ::
          (packets.drop count).map (Receiver.mismatch 0) ++ (receiver.acceptAll others).1 := by
  have front := deliverable.acceptAll_front waiting more
  have short : (receiver.holding (carried (packets.take count))).pending.size ≤
      Receiver.greatestOffset := by
    rw [Receiver.size_holding]
    exact deliverable.length_take_le count
  rw [front] at elsewhere ⊢
  have refused := Receiver.accept_stray someByte plain elsewhere short
  rw [Receiver.discard_holding, Receiver.holding_nil_of_waiting waiting] at refused
  have astray := Receiver.acceptAll_astray waiting (deliverable.astray_drop positive)
  rw [Receiver.acceptAll_around front refused, astray]

end Deliverable

section Stray

variable {receiver : Receiver} {sender between after : Sender} {first second : Frame}
variable {packets others : List Packet} {descriptor next : FormatDescriptor} {stray : Packet}

/-- A frame whose packets say so has no announcement. -/
theorem Deliverable.due_eq_none
    (deliverable : Deliverable receiver sender first packets between descriptor)
    (unannounced : ∀ packet ∈ packets, packet.header.capsInline = false) :
    (sender.adopt first).due = none := by
  obtain ⟨rfl, _, short⟩ := Sender.fragments_of_encode deliverable.encoded
  have partitions := Sender.partitions_fragments short
  have nonempty : (sender.adopt first).fragments first ≠ [] := by
    intro nothing
    exact Sender.serialize_ne_nil deliverable.carries (partitions.empty_iff.1 nothing)
  obtain ⟨packet, member⟩ := List.exists_mem_of_ne_nil _ nonempty
  have plain := unannounced packet member
  rw [(partitions.alike packet member).1] at plain
  exact Option.isNone_iff_eq_none.1 (Option.isSome_eq_false_iff.1 plain)

/-- A stray packet between the packets of a frame, or next to them, and another frame behind it, all
to a receiver that waits for a frame and knows both formats. The stray packet is answered with the
bytes at hand and its own offset. In front of the first packet or behind the last one it changes
nothing else: the frame is delivered as it would be alone. Anywhere else it costs that frame: every
packet left of it is answered with a mismatch at the start. The other frame is delivered as it was
sent, either way. -/
theorem acceptAll_stray
    (waiting : receiver.pending = .empty)
    (deliverable : Deliverable receiver sender first packets between descriptor)
    (unannounced : ∀ packet ∈ packets, packet.header.capsInline = false)
    (deliverableNext : Deliverable receiver between second others after next)
    (someByte : stray.payload ≠ []) (plain : stray.discont = false)
    {count : Nat} (inside : count ≤ packets.length) :
    let held := (receiver.acceptAll (packets.take count)).2
    let whole := receiver.acceptAll packets
    let answers :=
      (receiver.acceptAll (packets.take count ++ stray :: packets.drop count ++ others)).1
    stray.header.offset.toNat ≠ held.pending.size →
      (count = 0 ∨ count = packets.length →
        answers = whole.1.take count ++ Receiver.mismatch held.pending.size stray ::
          whole.1.drop count ++ (whole.2.acceptAll others).1 ∧
        Answered first between.current (some descriptor) whole.1 ∧
        Answered second after.current (some next) (whole.2.acceptAll others).1) ∧
      (0 < count → count < packets.length →
        answers = List.replicate count (.ok none) ++ Receiver.mismatch held.pending.size stray ::
          (packets.drop count).map (Receiver.mismatch 0) ++ (receiver.acceptAll others).1 ∧
        Answered second after.current (some next) (receiver.acceptAll others).1) := by
  intro held whole answers elsewhere
  constructor
  · intro outside
    obtain ⟨delivered, active, heard⟩ := deliverable.acceptAll waiting
    have known : (sender.adopt first).teach receiver.cache = receiver.cache := by
      rw [Sender.teach, deliverable.due_eq_none unannounced]
    have left : whole.2 = { receiver with active } := by
      rw [← known]
      exact heard
    have deliveredNext := ((deliverableNext.inForce active).acceptAll waiting).1
    rw [← left] at deliveredNext
    have waitingHere : held.pending = .empty := by
      rcases outside with rfl | rfl
      · exact waiting
      · have all : held = whole.2 :=
          congrArg (fun front => (receiver.acceptAll front).2) (List.take_length (l := packets))
        rw [all, left]
        exact waiting
    have size := Receiver.size_of_waiting waitingHere
    rw [size] at elsewhere ⊢
    refine ⟨?_, delivered, deliveredNext⟩
    exact Receiver.acceptAll_stray_of_waiting waitingHere inside someByte plain elsewhere others
  · intro positive more
    constructor
    · exact deliverable.acceptAll_stray_within waiting positive more someByte plain elsewhere others
    · exact (deliverableNext.acceptAll waiting).1

/-- In the middle of a frame of two packets comes one that could be a frame of its own. It stands at
the start, and is refused all the same. -/
theorem acceptAll_stray_at_start :
    ∃ sender, Sender.create ⟨10, some ⟨"s"⟩⟩ = .ok sender ∧
      let first : Frame := { Frame.blank with payload := [1, 2, 3] }
      let second : Frame := { Frame.blank with payload := [4], descriptor := some ⟨"v"⟩ }
      let receiver := Receiver.create ⟨some ⟨"s"⟩, 4⟩
      let stray : Packet := ⟨⟨true, 6, .delta, 9, 0⟩, true, false, 8, [5]⟩
      ∃ packets between others after, packets.length = 2 ∧
        Deliverable receiver sender first packets between ⟨"s"⟩ ∧
        Deliverable receiver between second others after ⟨"v"⟩ ∧
        (receiver.acceptAll (packets.take 1 ++ stray :: packets.drop 1 ++ others)).1 =
          [.ok none, .error (.fragmentMismatch 2 0), .error (.fragmentMismatch 0 2)] ++
            (receiver.acceptAll others).1 ∧
        Answered second after.current (some ⟨"v"⟩) (receiver.acceptAll others).1 := by
  obtain ⟨sender, created, _⟩ := @Sender.create_of_roomy ⟨10, some ⟨"s"⟩⟩ (by decide)
  refine ⟨sender, created, ?_⟩
  intro first second receiver stray
  let packets := (sender.adopt first).fragments first
  let between := (sender.adopt first).settled
  let others := (between.adopt second).fragments second
  obtain ⟨short, shortNext, fits, fitsNext, known, knownNext⟩ :
      ((sender.adopt first).serialize first).length ≤ greatestFrame ∧
        ((between.adopt second).serialize second).length ≤ greatestFrame ∧
        (carried packets).length ≤ 4 ∧ (carried others).length ≤ 4 ∧
        (sender.adopt first).due.or (receiver.cache.lookup between.current) = some ⟨"s"⟩ ∧
        (between.adopt second).due.or
          (receiver.cache.lookup (between.adopt second).current) = some ⟨"v"⟩ := by
    cases created
    decide +kernel
  obtain ⟨count, unannounced, held, rest⟩ :
      packets.length = 2 ∧ (∀ packet ∈ packets, packet.header.capsInline = false) ∧
        (receiver.acceptAll (packets.take 1)).2.pending.size = 2 ∧
        (packets.drop 1).map (Receiver.mismatch 0) = [.error (.fragmentMismatch 0 2)] := by
    cases created
    decide +kernel
  have deliverable : Deliverable receiver sender first packets between ⟨"s"⟩ :=
    ⟨Sender.encode_of_short short, .inr (by decide), fits, known⟩
  have deliverableNext : Deliverable receiver between second others _ ⟨"v"⟩ :=
    ⟨Sender.encode_of_short shortNext, .inr (by decide), fitsNext, knownNext⟩
  have someByte : stray.payload ≠ [] := List.cons_ne_nil 5 []
  have more : 1 < packets.length := by omega
  have elsewhere : stray.header.offset.toNat ≠
      (receiver.acceptAll (packets.take 1)).2.pending.size := by
    rw [held]
    decide
  obtain ⟨answers, delivered⟩ := (acceptAll_stray rfl deliverable unannounced deliverableNext
    someByte rfl (Nat.le_of_lt more) elsewhere).2 Nat.one_pos more
  rw [held, rest] at answers
  exact ⟨packets, between, others, _, count, deliverable, deliverableNext, answers, delivered⟩

end Stray

end FrameLink

import FrameLink.Proofs.Link.Progress
import FrameLink.Proofs.Stream.Reads
import FrameLink.Transport.Loopback

/-!
# Over a loopback link

A loopback link numbers the datagrams that it takes, loses those whose numbers it was told to lose,
and queues the others (`pushAll_loopback`). The receiving end takes the queue from the front
(`queued_loopback`).
-/

namespace FrameLink

open FrameLink.Receiver (Kept)
open FrameLink.Sender (greatestFrame)
open FrameLink.Transport (DatagramSink DatagramSource Loopback TransportError)

namespace Labels

theorem sequence_add (labels : Labels) (position index : Nat) :
    labels.sequence (position + index) = labels.sequence position + UInt16.ofNat index := by
  rw [sequence, sequence, UInt16.ofNat_add, UInt16.add_assoc]

end Labels

namespace Transport.Loopback

/-- What a loopback link puts on its datagrams. -/
def labels : Labels := ⟨CarrierHeader.defaultPayloadType, 0, 0⟩

/-- Datagrams are numbered from 0. -/
theorem sequence_labels (position : Nat) : labels.sequence position = UInt16.ofNat position :=
  UInt16.zero_add _

/-- Whether a link loses the datagram at a position. -/
def loses (link : Loopback) (position : Nat) : Bool :=
  link.lost.contains (labels.sequence position)

/-- Every loss is told, since numbers that come round are lost again. -/
theorem told_loses (link : Loopback) : Told link.loses :=
  told_of_sequence labels fun sequence => link.lost.contains sequence

/-- A link with both ends open and no failing sends. -/
structure Sound (link : Loopback) : Prop where
  next : link.next = labels.sequence link.sent
  noFailure : link.failAfter = none
  sinkOpen : link.sinkOpen = true
  sourceOpen : link.sourceOpen = true

theorem sound_fresh : fresh.Sound := ⟨rfl, rfl, rfl, rfl⟩

/-- What is lost of the next datagrams is told by their numbers. -/
theorem Sound.kept_iff {link : Loopback} (sound : link.Sound) (count : Nat) :
    Kept link.loses link.sent count ↔
      ∀ index < count, link.next + UInt16.ofNat index ∉ link.lost := by
  apply forall_congr'
  intro index
  apply imp_congr_right
  intro _
  rw [loses, Labels.sequence_add, sound.next, ← Bool.not_eq_true, List.contains_iff_mem]

/-- The link once it has taken these packets as well. -/
def taken (link : Loopback) (packets : List Packet) : Loopback :=
  { link with
    next := labels.sequence (link.sent + packets.length)
    sent := link.sent + packets.length
    queue := link.queue ++
      arriving link.loses link.sent (labels.rawFrom link.sent packets) }

theorem Sound.taken {link : Loopback} (sound : link.Sound) (packets : List Packet) :
    (link.taken packets).Sound :=
  ⟨rfl, sound.noFailure, sound.sinkOpen, sound.sourceOpen⟩

theorem Sound.taken_nil {link : Loopback} (sound : link.Sound) : link.taken [] = link := by
  simp [Loopback.taken, Labels.rawFrom, arriving, ← sound.next]

theorem taken_taken (link : Loopback) (front back : List Packet) :
    (link.taken front).taken back = link.taken (front ++ back) := by
  have loses : (link.taken front).loses = link.loses := rfl
  rw [taken, loses, taken, taken, Labels.rawFrom_append, arriving_append, Labels.length_rawFrom,
    List.append_assoc, List.length_append, Nat.add_assoc]

/-- A packet goes to the queue, or gets lost. -/
theorem Sound.push {link : Loopback} (sound : link.Sound) (packet : Packet) :
    pushTo packet link = (.ok (), link.taken [packet]) := by
  have unbroken : link.isBroken = false := by rw [isBroken, sound.noFailure]
  have next : link.next + 1 = labels.sequence (link.sent + 1) := by
    rw [sound.next, Labels.sequence_add]
    rfl
  have fate : link.loses link.sent = link.lost.contains link.next := by rw [loses, sound.next]
  have raw : labels.raw link.sent packet =
      packet.toDatagram.wire CarrierHeader.defaultPayloadType link.next 0 := by
    rw [sound.next]
    rfl
  rw [pushTo, DatagramSink.send, instDatagramSink, Loopback.taken]
  simp only [send, unbroken, Bool.false_eq_true, if_false, next, Labels.rawFrom, arriving, fate,
    raw, List.length_singleton]
  cases gone : link.lost.contains link.next with
  | true => rw [if_pos rfl, if_pos rfl, List.append_nil]
  | false =>
      rw [if_neg Bool.false_ne_true, if_neg Bool.false_ne_true, if_pos sound.sourceOpen]

/-- A link without failing sends takes all packets. -/
theorem Sound.pushAll {link : Loopback} (sound : link.Sound) (packets : List Packet) :
    pushAll pushTo packets link = (⟨packets.length, none⟩, link.taken packets) := by
  induction packets generalizing link with
  | nil => rw [FrameLink.pushAll, sound.taken_nil, List.length_nil]
  | cons packet rest ih =>
      rw [FrameLink.pushAll, sound.push]
      simp only [ih (sound.taken [packet]), taken_taken]
      rfl

/-- A frame with short offsets goes out whole, and no other one leaves a packet. -/
theorem Sound.write {link : Loopback} (sound : link.Sound) (sender : Sender) (frame : Frame) :
    let attempt : Attempt := ⟨sender.adopt frame, frame, (sender.write frame link).1⟩
    attempt.Sound ∧ (attempt.written = false → attempt.sent = 0) ∧
      (attempt.written = true ↔ attempt.bytes.length ≤ greatestFrame) ∧
      (sender.write frame link).2 = (attempt.after, link.taken attempt.packets) := by
  by_cases short : ((sender.adopt frame).serialize frame).length ≤ greatestFrame
  · have written : sender.write frame link =
        (.ok ((sender.adopt frame).fragments frame).length, (sender.adopt frame).settled,
          link.taken ((sender.adopt frame).fragments frame)) := by
      simp only [Sender.write, Sender.send, Sender.packets_of_short short, sound.pushAll]
    rw [written]
    refine ⟨Attempt.sound_ok short rfl, ?_, iff_of_true rfl short, ?_⟩
    · intro refused
      cases refused
    · simp only [Attempt.after, Attempt.packets, Attempt.sent, Attempt.fragments,
        List.take_length]
      rfl
  · have written : sender.write frame link =
        (.error (.frameTooLarge ((sender.adopt frame).serialize frame).length greatestFrame),
          sender.adopt frame, link) := by
      simp only [Sender.write, Sender.send, Sender.packets_of_long (Nat.lt_of_not_le short)]
    rw [written]
    refine ⟨Attempt.sound_tooLong (Nat.lt_of_not_le short) _ _, fun _ => rfl,
      iff_of_false Bool.false_ne_true short, ?_⟩
    simp only [Attempt.packets, Attempt.sent, List.take_zero, sound.taken_nil]
    rfl

/-- The bytes under way, and the end that takes them. -/
theorem queued (link : Loopback) (sinkOpen : link.sinkOpen = true) :
    Queued (fun tracker queue => { link with tracker, queue }) (.io (.ofKind .wouldBlock)) where
  gives := fun _ _ _ => rfl
  fails := by
    intro tracker
    rw [DatagramSource.receive, instDatagramSource]
    simp only [receive, sinkOpen, if_true]
  failure := rfl

end Transport.Loopback

end FrameLink

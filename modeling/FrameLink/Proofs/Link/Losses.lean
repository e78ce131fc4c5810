import FrameLink.Proofs.Link.Inbound
import FrameLink.Proofs.Link.Progress

/-!
# Formats behind losses

Behind a line with losses, a frame is delivered where it comes whole, under whatever format the
receiver heard of last under the version of the frame. Versions come round after seven changes, so
that format is the right one only where the receiver heard of the latest change, or of none under
that version (`Line.delivered_format_iff`).
-/

namespace FrameLink

open FrameLink.Receiver (Answer)
open FrameLink.Transport (TransportError)

namespace Line

/-- The answers to the datagrams of a frame, at an end that took before what arrived of all that
went out earlier. -/
def answersTo (line : Line) (receiver : Receiver) (lost : Nat → Bool) (frame : Frame) :
    List Answer :=
  let earlier := (Inbound.fresh receiver).takeAll (arriving lost 0 line.outlet.wire)
  let datagrams := (line.perform (.send frame)).outlet.wire.drop line.outlet.wire.length
  (earlier.2.takeAll (arriving lost line.outlet.wire.length datagrams)).1

/-- An end behind losses answers as the account of the line says. -/
theorem Sound.answersTo {initial : Option FormatDescriptor} {actions : List Action} {line : Line}
    (sound : line.Sound initial actions) {lost : Nat → Bool} (sparse : Sparse lost) (most : Nat)
    (frame : Frame) :
    (Progress.ofLog lost most initial line.log).Answers lost most
      (line.sender.attempt frame line.outlet)
      (line.answersTo (.create ⟨initial, most⟩) lost frame) := by
  have start : Follows lost line.outlet.labels 0 (.fresh (.create ⟨initial, most⟩))
      (Receiver.create ⟨initial, most⟩) := .fresh
  obtain ⟨_, level⟩ := start.takeAll sparse.told (plain_packets line.log)
  have plain : ∀ packet ∈ (line.sender.attempt frame line.outlet).packets, packet.Plain :=
    fun packet member => Receiver.plain_packetsFrom _ _ _ _ packet (List.mem_of_mem_take member)
  obtain ⟨same, _⟩ := level.takeAll sparse.told plain
  have answered := (Progress.held_ofLog lost most initial sound.log).after lost
    (line.sender.write_outlet frame line.outlet).1
  have length : line.outlet.wire.length = (packets line.log).length := by
    rw [sound.wire, Labels.length_rawFrom]
  rw [Progress.position_ofLog lost most initial sound.log, ← Nat.zero_add (packets line.log).length,
    ← same] at answered
  rw [Line.answersTo, sound.wire_send, List.drop_left, length, sound.wire]
  rw [Nat.zero_add] at answered
  exact answered.2

/-- For every run with losses, the answers to a frame are those of the account. The frame is
delivered under no format but the one named last, exactly unless it comes whole to a receiver that
knows its version by another format; where it comes whole to one that does not know the version, and
nowhere else, the receiver says so. -/
theorem delivered_format_iff (config : SenderConfig) (most : Nat) (labels : Labels)
    (refuse : Nat → Option TransportError) (lost : Nat → Bool)
    (roomy : PacketHeader.size < config.mtu) (sparse : Sparse lost) :
    ∃ sender, Sender.create config = .ok sender ∧
      ∀ (before : List Action) (frame : Frame),
        let line := (Line.fresh sender labels refuse).run before
        let attempt := line.sender.attempt frame line.outlet
        let progress := Progress.ofLog lost most config.initial line.log
        let answers := line.answersTo (.create ⟨config.initial, most⟩) lost frame
        let named := lastNamed config.initial (before ++ [.send frame])
        progress.Answers lost most attempt answers ∧
          ((∀ received, .ok (some (.frame received)) ∈ answers →
              some received.descriptor = named) ↔
            ¬(progress.Whole lost most attempt ∧ frame.event = none ∧ frame.payload ≠ [] ∧
              ∃ stale, progress.reads attempt = some stale ∧ some stale ≠ named)) ∧
          (frame.event = none → frame.payload ≠ [] →
            (.error (.missingFormatVersion attempt.sender.current.val) ∈ answers ↔
              progress.Whole lost most attempt ∧ progress.reads attempt = none)) := by
  obtain ⟨sender, created, _, announced, _, _⟩ := Sender.create_of_roomy roomy
  refine ⟨sender, created, ?_⟩
  intro before frame line attempt progress answers named
  have sound : line.Sound config.initial before :=
    (sound_fresh created announced labels refuse).run before
  have answered : progress.Answers lost most attempt answers :=
    sound.answersTo sparse most frame
  refine ⟨answered, ⟨?_, ?_⟩, ?_⟩
  · rintro right ⟨whole, noEvent, someByte, stale, read, other⟩
    obtain ⟨received, member, same⟩ := answered.exists_mem_frame whole noEvent someByte read
    rw [← same] at other
    exact other (right received member)
  · intro notStale received member
    obtain ⟨whole, noEvent, someByte, read⟩ := answered.of_mem_frame member
    by_contra other
    exact notStale ⟨whole, noEvent, someByte, received.descriptor, read, other⟩
  · intro noEvent someByte
    exact answered.missing_iff noEvent someByte

/-- A frame behind a lost announcement is not delivered under some other format. -/
theorem delivered_format_iff_unheard :
    PacketHeader.size < 1400 ∧ Sparse (fun position => position == 0) ∧
      ∃ sender, Sender.create ⟨1400, some ⟨"setup"⟩⟩ = .ok sender ∧
        let announcing : Frame :=
          { Frame.blank with payload := [1], descriptor := some ⟨"change"⟩ }
        let frame : Frame := { Frame.blank with payload := [2] }
        let line := (Line.fresh sender ⟨96, 0, 0⟩ fun _ => none).run [.send announcing]
        let answers := line.answersTo (.create ⟨some ⟨"setup"⟩, 64⟩)
          (fun position => position == 0) frame
        (∀ received, .ok (some (.frame received)) ∈ answers →
            some received.descriptor = some ⟨"change"⟩) ∧
          .error (.missingFormatVersion 1) ∈ answers := by
  have roomy : PacketHeader.size < 1400 := by decide
  have sparse : Sparse (fun position => position == 0) := by
    intro position
    refine ⟨position + 1, by omega, by omega, ?_⟩
    simp
  obtain ⟨sender, created, behindLosses⟩ := delivered_format_iff ⟨1400, some ⟨"setup"⟩⟩ 64
    ⟨96, 0, 0⟩ (fun _ => none) (fun position => position == 0) roomy sparse
  refine ⟨roomy, sparse, sender, created, ?_⟩
  intro announcing frame line answers
  obtain ⟨_, right, unheard⟩ := behindLosses [.send announcing] frame
  cases created
  constructor
  · apply right.2
    rintro ⟨_, _, _, stale, read, _⟩
    revert stale
    decide +kernel
  · have version : (line.sender.attempt frame line.outlet).sender.current.val = 1 := by
      decide +kernel
    have refused := (unheard rfl (by decide)).2 ⟨by decide +kernel, by decide +kernel⟩
    rw [version] at refused
    exact refused

/-- Versions come round: where the eighth change is lost, the frame behind it is delivered under
the format of the first one. -/
theorem delivered_under_first_format :
    ∃ sender, Sender.create ⟨1400, none⟩ = .ok sender ∧
      let before : List Action := ["a", "b", "c", "d", "e", "f", "g", "h"].map fun text =>
        .send { Frame.blank with payload := [1], descriptor := some ⟨text⟩ }
      let frame : Frame := { Frame.blank with payload := [2] }
      let line := (Line.fresh sender ⟨96, 0, 0⟩ fun _ => none).run before
      lastNamed none (before ++ [.send frame]) = some ⟨"h"⟩ ∧
        line.answersTo (.create .default) (fun position => position == 7) frame =
          [.ok (some (.frame {
            payload := [2]
            flags := .none
            version := 1
            descriptor := ⟨"a"⟩
            formatChanged := true
            timestamp := 0 }))] := by
  refine ⟨_, rfl, ?_⟩
  decide +kernel

end Line

end FrameLink

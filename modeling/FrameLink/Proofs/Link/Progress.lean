import FrameLink.Proofs.Link.Line
import Mathlib.Data.List.Induction
import Mathlib.Tactic.ByContra

/-!
# What a receiver has of a line

A receiver at the end of a line knows two things that matter for the next frame: whether it still
holds the front of a torn frame, and which formats it has heard of. Both follow from the log of the
line and the losses alone (`Progress.after`), and the answers to the packets of each frame follow
from both (`Progress.Held.after`).
-/

namespace FrameLink

open FrameLink.Receiver (Answer Idle Kept)
open FrameLink.Sender (greatestFrame)

/-- The bytes of a frame that went out. -/
def Attempt.front (attempt : Attempt) : Bytes :=
  ((attempt.sender.pieces attempt.frame).take attempt.sent).flatten

namespace Attempt.Sound

variable {attempt : Attempt}

/-- All bytes of a frame that was written went out. -/
theorem front_of_written (sound : attempt.Sound) (written : attempt.written = true) :
    attempt.front = attempt.bytes := by
  have all := (sound.written_iff.1 written).2
  rw [Attempt.front, all, Attempt.fragments, Sender.length_fragments, List.take_length,
    Sender.flatten_pieces]
  rfl

/-- A frame that was written with some byte took some packet. -/
theorem sent_ne_zero_iff (sound : attempt.Sound) (written : attempt.written = true) :
    attempt.sent ≠ 0 ↔ attempt.bytes ≠ [] := by
  have all := (sound.written_iff.1 written).2
  rw [all, Attempt.fragments]
  constructor
  · intro somePacket empty
    rw [Sender.fragments_of_empty empty] at somePacket
    exact somePacket rfl
  · intro someByte noPacket
    rw [Sender.length_fragments] at noPacket
    exact Sender.pieces_ne_nil someByte (List.length_eq_zero_iff.1 noPacket)

end Attempt.Sound

/-- What is known at the end of a line, so many packets into it. -/
structure Progress where
  position : Nat
  /-- Whether the front of a torn frame is at hand. -/
  torn : Bool
  heard : FormatCache
  deriving DecidableEq, Repr

namespace Progress

/-- What is known in front of a line. -/
def fresh (initial : Option FormatDescriptor) : Progress :=
  ⟨0, false, .seeded initial⟩

/-- Whether the packets of an attempt come in one piece behind nothing else. -/
def GoesIn (progress : Progress) (lost : Nat → Bool) (most : Nat) (attempt : Attempt) : Prop :=
  attempt.sent ≠ 0 ∧ progress.torn = false ∧ Kept lost progress.position attempt.sent ∧
    attempt.front.length ≤ most

instance (progress : Progress) (lost : Nat → Bool) (most : Nat) (attempt : Attempt) :
    Decidable (progress.GoesIn lost most attempt) :=
  inferInstanceAs (Decidable (_ ∧ _ ∧ _ ∧ _))

/-- Whether the frame of an attempt comes whole. -/
def Whole (progress : Progress) (lost : Nat → Bool) (most : Nat) (attempt : Attempt) : Prop :=
  progress.GoesIn lost most attempt ∧ attempt.written = true

instance (progress : Progress) (lost : Nat → Bool) (most : Nat) (attempt : Attempt) :
    Decidable (progress.Whole lost most attempt) :=
  inferInstanceAs (Decidable (_ ∧ _))

/-- What is known after one more attempt. A whole frame is heard, and the front of a torn one is
kept; whatever comes in pieces takes along what was at hand. -/
def after (progress : Progress) (lost : Nat → Bool) (most : Nat) (attempt : Attempt) :
    Progress where
  position := progress.position + attempt.sent
  torn :=
    if attempt.sent = 0 then progress.torn
    else decide (progress.GoesIn lost most attempt) && !attempt.written
  heard :=
    if progress.Whole lost most attempt then attempt.sender.teach progress.heard
    else progress.heard

theorem heard_after_of_whole {lost : Nat → Bool} {most : Nat} {progress : Progress}
    {attempt : Attempt} (whole : progress.Whole lost most attempt) :
    (progress.after lost most attempt).heard = attempt.sender.teach progress.heard :=
  if_pos whole

theorem heard_after_of_not_whole {lost : Nat → Bool} {most : Nat} {progress : Progress}
    {attempt : Attempt} (part : ¬progress.Whole lost most attempt) :
    (progress.after lost most attempt).heard = progress.heard :=
  if_neg part

/-- The frame of a write that fits comes whole where it took some packet, nothing torn is ahead of
it, and nothing of it is lost. -/
theorem whole_iff {lost : Nat → Bool} {most : Nat} {progress : Progress} {attempt : Attempt}
    (sound : attempt.Sound) (fits : attempt.written = true → attempt.bytes.length ≤ most) :
    progress.Whole lost most attempt ↔
      attempt.written = true ∧ attempt.sent ≠ 0 ∧ progress.torn = false ∧
        Kept lost progress.position attempt.sent := by
  constructor
  · rintro ⟨⟨somePacket, untorn, kept, _⟩, written⟩
    exact ⟨written, somePacket, untorn, kept⟩
  · rintro ⟨written, somePacket, untorn, kept⟩
    refine ⟨⟨somePacket, untorn, kept, ?_⟩, written⟩
    rw [sound.front_of_written written]
    exact fits written

/-- A write that leaves no front of a frame leaves nothing torn. -/
theorem torn_after {lost : Nat → Bool} {most : Nat} {progress : Progress} {attempt : Attempt}
    (untorn : progress.torn = false) (clean : attempt.written = false → attempt.sent = 0) :
    (progress.after lost most attempt).torn = false := by
  rw [after]
  cases written : attempt.written with
  | false =>
      rw [if_pos (clean written)]
      exact untorn
  | true => rw [Bool.not_true, Bool.and_false, untorn, ite_self]

/-- What is known after a line. -/
def ofLog (lost : Nat → Bool) (most : Nat) (initial : Option FormatDescriptor)
    (log : List Attempt) : Progress :=
  log.foldl (fun progress attempt => progress.after lost most attempt) (fresh initial)

theorem ofLog_concat (lost : Nat → Bool) (most : Nat) (initial : Option FormatDescriptor)
    (log : List Attempt) (attempt : Attempt) :
    ofLog lost most initial (log ++ [attempt]) =
      (ofLog lost most initial log).after lost most attempt := by
  rw [ofLog, ofLog, List.foldl_append]
  rfl

/-- A receiver that takes frames up to a size has what the account says. -/
structure Held (progress : Progress) (most : Nat) (receiver : Receiver) : Prop where
  bound : receiver.config.maxFrameSize = most
  heard : receiver.cache = progress.heard
  torn_iff : progress.torn = true ↔ receiver.pending.toBytes ≠ []

/-- The format under which a receiver reads the frame of an attempt. -/
def reads (progress : Progress) (attempt : Attempt) : Option FormatDescriptor :=
  (attempt.sender.teach progress.heard).lookup attempt.sender.current

/-- The answers to the packets of an attempt: idle ones, and what the frame comes to where it came
whole. -/
def Answers (progress : Progress) (lost : Nat → Bool) (most : Nat) (attempt : Attempt)
    (answers : List Answer) : Prop :=
  if progress.Whole lost most attempt then
    ∃ changed, answers = List.replicate (attempt.sent - 1) (.ok none) ++
      [attempt.frame.verdict attempt.sender.current (attempt.sender.teach progress.heard) changed]
  else ∀ answer ∈ answers, Idle answer

section Step

variable {progress : Progress} {lost : Nat → Bool} {most : Nat} {receiver : Receiver}
variable {attempt : Attempt}

/-- Nothing is left of what came in pieces. -/
theorem Held.wasted {answers : List Answer} {after : Receiver}
    (held : progress.Held most receiver) (somePacket : attempt.sent ≠ 0)
    (pieces : ¬progress.GoesIn lost most attempt)
    (wasted : receiver.Wasted (answers, after)) :
    (progress.after lost most attempt).Held most after ∧
      progress.Answers lost most attempt answers := by
  have whole : ¬progress.Whole lost most attempt := fun both => pieces both.1
  obtain ⟨idle, left⟩ := wasted
  simp only at left
  constructor
  · rw [left]
    exact {
      bound := held.bound
      heard := by
        rw [heard_after_of_not_whole whole]
        exact held.heard
      torn_iff := by simp [Progress.after, somePacket, pieces] }
  · rw [Answers, if_neg whole]
    exact idle

/-- A receiver that holds no front has nothing at hand. -/
theorem Held.holding_nil (held : progress.Held most receiver) (whole : progress.torn = false) :
    receiver.holding [] = receiver := by
  have nothing : receiver.pending.toBytes = [] := by
    by_contra heldBytes
    rw [held.torn_iff.2 heldBytes] at whole
    cases whole
  rw [← nothing]
  exact receiver.holding_pending

/-- No packet changes nothing. -/
theorem Held.nothing (held : progress.Held most receiver) (noPacket : attempt.sent = 0) :
    (progress.after lost most attempt).Held most receiver ∧
      progress.Answers lost most attempt [] := by
  have part : ¬progress.Whole lost most attempt := fun whole => whole.1.1 noPacket
  constructor
  · exact {
      bound := held.bound
      heard := by
        rw [heard_after_of_not_whole part]
        exact held.heard
      torn_iff := by
        rw [Progress.after, if_pos noPacket]
        exact held.torn_iff }
  · rw [Answers, if_neg part]
    intro answer member
    cases member

/-- The packets of a whole frame complete it. -/
theorem Held.completes (held : progress.Held most receiver) (sound : attempt.Sound)
    (whole : progress.Whole lost most attempt) :
    (progress.after lost most attempt).Held most
        (receiver.acceptOver lost progress.position attempt.packets).2 ∧
      progress.Answers lost most attempt
        (receiver.acceptOver lost progress.position attempt.packets).1 := by
  obtain ⟨⟨somePacket, untorn, kept, fits⟩, written⟩ := id whole
  have all := (sound.written_iff.1 written).2
  have every : attempt.packets = attempt.fragments := by
    rw [Attempt.packets, all, List.take_length]
  have someByte := (sound.sent_ne_zero_iff written).1 somePacket
  rw [all] at kept
  rw [sound.front_of_written written, ← held.bound] at fits
  obtain ⟨active, accepted⟩ := Receiver.acceptOver_fragments lost receiver attempt.sender
    attempt.frame progress.position someByte kept fits (sound.short somePacket)
  rw [held.holding_nil untorn, ← Attempt.fragments, ← every] at accepted
  rw [accepted]
  constructor
  · exact {
      bound := held.bound
      heard := by rw [heard_after_of_whole whole, ← held.heard]
      torn_iff := by
        rw [← held.torn_iff, untorn]
        simp [Progress.after, somePacket, written] }
  · rw [Answers, if_pos whole, ← held.heard, all, every]
    exact ⟨_, rfl⟩

/-- Packets that come in one piece and are not all of their frame are kept. -/
theorem Held.keeps (held : progress.Held most receiver) (sound : attempt.Sound)
    (inOne : progress.GoesIn lost most attempt) (refused : attempt.written ≠ true) :
    (progress.after lost most attempt).Held most
        (receiver.acceptOver lost progress.position attempt.packets).2 ∧
      progress.Answers lost most attempt
        (receiver.acceptOver lost progress.position attempt.packets).1 := by
  obtain ⟨somePacket, untorn, kept, fits⟩ := id inOne
  have short := sound.short somePacket
  have partly : attempt.sent < (attempt.sender.pieces attempt.frame).length := by
    rw [← Sender.length_fragments]
    apply Nat.lt_of_le_of_ne sound.sent_le
    intro all
    exact refused (sound.written_iff.2 ⟨short, all⟩)
  have accepted := Receiver.acceptOver_front lost receiver
    (attempt.sender.header attempt.frame) attempt.frame.timestamp progress.position attempt.sent
    partly kept (by rw [held.bound]; exact fits) (by rw [Sender.flatten_pieces]; exact short)
  rw [held.holding_nil untorn] at accepted
  have someByte : attempt.front ≠ [] := by
    apply Sender.flatten_take_ne_nil (Nat.pos_of_ne_zero somePacket)
    exact List.ne_nil_of_length_pos (Nat.lt_of_le_of_lt (Nat.zero_le _) partly)
  have heldFront : receiver.acceptOver lost progress.position attempt.packets =
      (List.replicate attempt.sent (.ok none), receiver.holding attempt.front) := accepted
  have part : ¬progress.Whole lost most attempt := fun whole => refused whole.2
  rw [heldFront]
  constructor
  · exact {
      bound := held.bound
      heard := by
        rw [heard_after_of_not_whole part]
        exact held.heard
      torn_iff := by simp [Progress.after, somePacket, inOne, refused, someByte] }
  · rw [Answers, if_neg part]
    intro answer member
    rw [List.eq_of_mem_replicate member]
    exact .nothing

/-- Packets that do not come in one piece, or behind the front of another frame, are wasted. -/
theorem Held.breaks (held : progress.Held most receiver) (sound : attempt.Sound)
    (somePacket : attempt.sent ≠ 0) (pieces : ¬progress.GoesIn lost most attempt) :
    receiver.Wasted (receiver.acceptOver lost progress.position attempt.packets) := by
  have short : (attempt.sender.pieces attempt.frame).flatten.length ≤ greatestFrame := by
    rw [Sender.flatten_pieces]
    exact sound.short somePacket
  have inside : attempt.sent ≤ (attempt.sender.pieces attempt.frame).length := by
    rw [← Sender.length_fragments]
    exact sound.sent_le
  cases torn : progress.torn with
  | false =>
      have broken := Receiver.acceptOver_broken lost receiver
        (attempt.sender.header attempt.frame) attempt.frame.timestamp progress.position
        attempt.sent [] inside Sender.ne_nil_of_mem_pieces (Nat.zero_le _) (by
          rw [List.nil_append, held.bound, ← Attempt.front]
          by_contra neither
          rw [not_or, not_not, Nat.not_lt] at neither
          exact pieces ⟨somePacket, torn, neither.1, neither.2⟩)
        (by rw [List.length_nil, Nat.zero_add]; exact short)
      rw [held.holding_nil torn] at broken
      exact broken
  | true =>
      have somePiece : attempt.sender.pieces attempt.frame ≠ [] := by
        apply List.ne_nil_of_length_pos
        exact Nat.lt_of_lt_of_le (Nat.pos_of_ne_zero somePacket) inside
      have wasted := Receiver.acceptOver_torn lost receiver
        (attempt.sender.header attempt.frame) attempt.frame.timestamp progress.position
        attempt.sent (held.torn_iff.1 torn) (Nat.pos_of_ne_zero somePacket) somePiece
        Sender.ne_nil_of_mem_pieces short
      rw [receiver.holding_pending] at wasted
      exact wasted

/-- An attempt takes the receiver where the account says, and is answered as it says. -/
theorem Held.after (held : progress.Held most receiver) (lost : Nat → Bool)
    (sound : attempt.Sound) :
    (progress.after lost most attempt).Held most
        (receiver.acceptOver lost progress.position attempt.packets).2 ∧
      progress.Answers lost most attempt
        (receiver.acceptOver lost progress.position attempt.packets).1 := by
  by_cases noPacket : attempt.sent = 0
  · rw [Attempt.packets, noPacket, List.take_zero]
    exact held.nothing noPacket
  by_cases inOne : progress.GoesIn lost most attempt
  · by_cases written : attempt.written = true
    · exact held.completes sound ⟨inOne, written⟩
    · exact held.keeps sound inOne written
  · exact held.wasted noPacket inOne (held.breaks sound noPacket inOne)

end Step

section Deliveries

variable {progress : Progress} {lost : Nat → Bool} {most : Nat} {attempt : Attempt}
variable {answers : List Answer}

/-- Only a whole frame with a payload and a format to read it under is delivered as a frame. -/
theorem Answers.of_mem_frame (answered : progress.Answers lost most attempt answers)
    {received : ReceivedFrame} (member : .ok (some (.frame received)) ∈ answers) :
    progress.Whole lost most attempt ∧ attempt.frame.event = none ∧ attempt.frame.payload ≠ [] ∧
      progress.reads attempt = some received.descriptor := by
  unfold Answers at answered
  split at answered
  next whole =>
    obtain ⟨changed, rfl⟩ := answered
    rcases List.mem_append.1 member with quiet | last
    · cases List.eq_of_mem_replicate quiet
    · have verdict := (List.mem_singleton.1 last).symm
      rw [Frame.verdict] at verdict
      cases carried : attempt.frame.event with
      | some event =>
          rw [carried] at verdict
          cases verdict
      | none =>
          simp only [carried] at verdict
          split at verdict
          next empty => cases verdict
          next someByte =>
            cases known : progress.reads attempt with
            | none =>
                rw [reads] at known
                rw [known] at verdict
                cases verdict
            | some descriptor =>
                rw [reads] at known
                rw [known] at verdict
                cases verdict
                exact ⟨whole, rfl, someByte, rfl⟩
  next part =>
    cases answered _ member

/-- A whole frame with a payload is delivered under the format that it is read under. -/
theorem Answers.exists_mem_frame (answered : progress.Answers lost most attempt answers)
    (whole : progress.Whole lost most attempt) (noEvent : attempt.frame.event = none)
    (someByte : attempt.frame.payload ≠ []) {descriptor : FormatDescriptor}
    (read : progress.reads attempt = some descriptor) :
    ∃ received, .ok (some (.frame received)) ∈ answers ∧ received.descriptor = descriptor := by
  rw [Answers, if_pos whole] at answered
  obtain ⟨changed, rfl⟩ := answered
  rw [Frame.verdict_of_known noEvent someByte read]
  exact ⟨_, List.mem_append_right _ List.mem_cons_self, rfl⟩

/-- A whole frame is answered with a missing format where it is read under none. -/
theorem Answers.missing_iff (answered : progress.Answers lost most attempt answers)
    (noEvent : attempt.frame.event = none) (someByte : attempt.frame.payload ≠ []) :
    .error (.missingFormatVersion attempt.sender.current.val) ∈ answers ↔
      progress.Whole lost most attempt ∧ progress.reads attempt = none := by
  unfold Answers at answered
  split at answered
  next whole =>
    obtain ⟨changed, rfl⟩ := answered
    cases read : progress.reads attempt with
    | none =>
        rw [Frame.verdict_of_unknown noEvent someByte read]
        simp [whole]
    | some descriptor =>
        rw [Frame.verdict_of_known noEvent someByte read]
        simp
  next part =>
    refine iff_of_false ?_ (fun both => part both.1)
    intro member
    cases answered _ member

end Deliveries

/-- The account of a log counts its packets. -/
theorem position_ofLog (lost : Nat → Bool) (most : Nat) (initial : Option FormatDescriptor)
    {log : List Attempt} (sound : ∀ attempt ∈ log, attempt.Sound) :
    (ofLog lost most initial log).position = (Line.packets log).length := by
  induction log using List.reverseRecOn with
  | nil => rfl
  | append_singleton log attempt ih =>
      have earlier := ih fun other member => sound other (List.mem_append_left _ member)
      have last := sound attempt (List.mem_append_right _ List.mem_cons_self)
      rw [ofLog_concat, Line.packets, List.flatMap_append, List.length_append,
        List.flatMap_singleton, last.length_packets, after, earlier, Line.packets]

/-- A fresh receiver that takes all packets of a log has what the account of the log says. -/
theorem held_ofLog (lost : Nat → Bool) (most : Nat) (initial : Option FormatDescriptor)
    {log : List Attempt} (sound : ∀ attempt ∈ log, attempt.Sound) :
    (ofLog lost most initial log).Held most
      ((Receiver.create ⟨initial, most⟩).acceptOver lost 0 (Line.packets log)).2 := by
  induction log using List.reverseRecOn with
  | nil =>
      exact {
        bound := rfl
        heard := rfl
        torn_iff := iff_of_false Bool.false_ne_true (not_not_intro rfl) }
  | append_singleton log attempt ih =>
      have front : ∀ other ∈ log, other.Sound :=
        fun other member => sound other (List.mem_append_left _ member)
      have last := sound attempt (List.mem_append_right _ List.mem_cons_self)
      have step := (ih front).after lost last
      rw [position_ofLog lost most initial front] at step
      rw [ofLog_concat, Line.packets, List.flatMap_append, List.flatMap_singleton,
        Receiver.acceptOver_append, Nat.zero_add]
      exact step.1

end Progress

end FrameLink

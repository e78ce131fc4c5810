import FrameLink.Proofs.Histories
import FrameLink.Proofs.Sender.Announced
import FrameLink.Proofs.Sender.Fragments
import FrameLink.Sender.Push
import Mathlib.Data.List.Induction
import Mathlib.Tactic.ByContra

/-!
# The versions of a sender

A sender is told to name formats and to send frames, and any push may fail. Its history tells what
was named, what was handed over, and which frames went out whole (`Mark`). Everything that a sender
holds about formats follows from that history: the rotation counts the changes, and the latest
change is due until a frame goes out whole (`Sender.Versioned`).
-/

namespace FrameLink

open FrameLink.Transport (TransportError)

/-! ## Handing over -/

section HandingOver

variable {σ : Type}

/-- A way to hand packets over that notes each of them, whether it is taken or not. -/
def noting (push : Push σ) : Push (List Packet × σ) :=
  fun packet state => ((push packet state.2).1, state.1 ++ [packet], (push packet state.2).2)

/-- Noting changes nothing, and sees the packets up to the first one that is refused. -/
theorem pushAll_noting (push : Push σ) (packets noted : List Packet) (state : σ) :
    ∃ handed, handed <+: packets ∧
      pushAll (noting push) packets (noted, state) =
        ((pushAll push packets state).1, noted ++ handed, (pushAll push packets state).2) ∧
      ((pushAll push packets state).1.failure = none → handed = packets) := by
  induction packets generalizing noted state with
  | nil => exact ⟨[], List.nil_prefix, by simp [pushAll], fun _ => rfl⟩
  | cons packet rest ih =>
      cases pushed : push packet state with
      | mk result after =>
          have seen : noting push packet (noted, state) = (result, noted ++ [packet], after) := by
            rw [noting, pushed]
          cases result with
          | error failure =>
              refine ⟨[packet], by simp, ?_, ?_⟩
              · simp [pushAll, pushed, seen]
              · intro taken
                simp [pushAll, pushed] at taken
          | ok value =>
              obtain ⟨handed, inOrder, same, all⟩ := ih (noted ++ [packet]) after
              refine ⟨packet :: handed, ?_, ?_, ?_⟩
              · exact List.cons_prefix_cons.2 ⟨rfl, inOrder⟩
              · simp [pushAll, pushed, seen, same]
              · intro taken
                simp only [pushAll, pushed] at taken
                rw [all taken]

end HandingOver

namespace Sender

variable {σ : Type}

/-- Whether a frame is short enough for its offsets and all its packets are taken. -/
def goesWhole (push : Push σ) (sender : Sender) (frame : Frame) (state : σ) : Bool :=
  decide (((sender.adopt frame).serialize frame).length ≤ greatestFrame) &&
    (pushAll push ((sender.adopt frame).fragments frame) state).1.failure.isNone

/-- The packets that a frame hands over, the last of which may be refused. -/
def handed (push : Push σ) (sender : Sender) (frame : Frame) (state : σ) : List Packet :=
  (sender.send (noting push) frame ([], state)).2.2.1

/-- A frame settles what was due exactly if it goes out whole; it hands over its packets in order,
and all of them then. -/
theorem send_spec (push : Push σ) (sender : Sender) (frame : Frame) (state : σ) :
    (sender.send push frame state).2.1 =
        (if sender.goesWhole push frame state then (sender.adopt frame).settled
          else sender.adopt frame) ∧
      sender.handed push frame state <+: (sender.adopt frame).fragments frame ∧
      (sender.goesWhole push frame state = true →
        sender.handed push frame state = (sender.adopt frame).fragments frame) := by
  unfold goesWhole handed send
  by_cases short : ((sender.adopt frame).serialize frame).length ≤ greatestFrame
  · obtain ⟨handed, inOrder, same, all⟩ :=
      pushAll_noting push ((sender.adopt frame).fragments frame) [] state
    simp only [packets_of_short short, same]
    rcases pushed : pushAll push ((sender.adopt frame).fragments frame) state with
      ⟨⟨sent, failure⟩, after⟩
    cases failure with
    | none =>
        rw [pushed] at all
        exact ⟨by simp [short], inOrder, fun _ => all rfl⟩
    | some failure => exact ⟨by simp, inOrder, by simp⟩
  · simp only [packets_of_long (Nat.lt_of_not_le short)]
    exact ⟨by simp [short], List.nil_prefix, by simp [short]⟩

end Sender

/-! ## Histories -/

/-- What happened to a sender: a format was named and given a version, or a frame was sent, with
the packets that it handed over. -/
inductive Mark where
  | named (descriptor : FormatDescriptor) (version : FormatVersion)
  | sent (frame : Frame) (handed : List Packet) (whole : Bool)
  deriving DecidableEq, Repr

namespace Mark

/-- The changes of format in a history, where this format is in force in front of it. A format
named again is no change. -/
def changes (known : Option FormatDescriptor) : List Mark → List FormatDescriptor
  | [] => []
  | .named descriptor _ :: rest =>
      if known = some descriptor then changes known rest
      else descriptor :: changes (some descriptor) rest
  | .sent _ _ _ :: rest => changes known rest

/-- The format in force behind a history. -/
def inForce (initial : Option FormatDescriptor) (marks : List Mark) : Option FormatDescriptor :=
  (changes initial marks).getLast?.or initial

/-- Whether a mark is of a frame that went out whole. -/
def Whole : Mark → Prop
  | .named _ _ => False
  | .sent _ _ whole => whole = true

/-- A change to this format is the latest one of a history, and no frame went out whole since. -/
def Owed (initial : Option FormatDescriptor) (marks : List Mark) (descriptor : FormatDescriptor) :
    Prop :=
  ∃ front version back, marks = front ++ .named descriptor version :: back ∧
    inForce initial front ≠ some descriptor ∧
    changes (some descriptor) back = [] ∧ ∀ mark ∈ back, ¬mark.Whole

/-- The version behind so many changes: the rotation starts at 1 and comes round after 7. -/
def versionAt (count : Nat) : Nat :=
  if count = 0 then 0 else (count - 1) % 7 + 1

/-- What stands in a history behind this front: a format gets the version of the changes so far,
and the packets of a frame have that version and carry what is owed in front of the body. -/
def Lawful (initial : Option FormatDescriptor) (front : List Mark) : Mark → Prop
  | .named descriptor version =>
      version.val = versionAt (changes initial (front ++ [.named descriptor version])).length
  | .sent frame handed whole =>
      ∃ packets, handed <+: packets ∧ (whole = true → handed = packets) ∧
        (∀ packet ∈ packets,
          packet.header.version.val = versionAt (changes initial front).length ∧
          (packet.header.capsInline = true ↔ ∃ descriptor, Owed initial front descriptor)) ∧
        (∀ descriptor, Owed initial front descriptor →
          Receiver.carried packets =
            Varint.encode (descriptor.size + 1) ++ descriptor.bytes ++ [0] ++ frame.body) ∧
        ((¬∃ descriptor, Owed initial front descriptor) →
          Receiver.carried packets = frame.body)

variable {initial : Option FormatDescriptor} {marks : List Mark}

theorem changes_append (known : Option FormatDescriptor) (front back : List Mark) :
    changes known (front ++ back) =
      changes known front ++ changes (inForce known front) back := by
  induction front generalizing known with
  | nil => rfl
  | cons mark front ih =>
      cases mark with
      | named descriptor version =>
          rw [List.cons_append, changes, changes, inForce, changes]
          split
          next => exact ih known
          next =>
            rw [ih (some descriptor), List.cons_append, List.getLast?_cons]
            rw [inForce]
            cases (changes (some descriptor) front).getLast? <;> rfl
      | sent frame handed whole => exact ih known

theorem changes_named (initial : Option FormatDescriptor) (marks : List Mark)
    (descriptor : FormatDescriptor) (version : FormatVersion) :
    changes initial (marks ++ [.named descriptor version]) =
      if inForce initial marks = some descriptor then changes initial marks
      else changes initial marks ++ [descriptor] := by
  rw [changes_append, changes]
  split
  next => rw [changes, List.append_nil]
  next => rw [changes]

theorem changes_sent (initial : Option FormatDescriptor) (marks : List Mark) (frame : Frame)
    (handed : List Packet) (whole : Bool) :
    changes initial (marks ++ [.sent frame handed whole]) = changes initial marks := by
  rw [changes_append, changes, changes, List.append_nil]

@[simp] theorem inForce_named (initial : Option FormatDescriptor) (marks : List Mark)
    (descriptor : FormatDescriptor) (version : FormatVersion) :
    inForce initial (marks ++ [.named descriptor version]) = some descriptor := by
  rw [inForce, changes_named]
  split
  next same => exact same
  next => simp

@[simp] theorem inForce_sent (initial : Option FormatDescriptor) (marks : List Mark) (frame : Frame)
    (handed : List Packet) (whole : Bool) :
    inForce initial (marks ++ [.sent frame handed whole]) = inForce initial marks := by
  rw [inForce, changes_sent, inForce]

/-- A format is in force until the next change. -/
theorem inForce_of_unchanged {descriptor : FormatDescriptor} {version : FormatVersion}
    {back : List Mark} (unchanged : changes (some descriptor) back = []) :
    inForce initial (marks ++ .named descriptor version :: back) = some descriptor := by
  have split : marks ++ .named descriptor version :: back =
      marks ++ [.named descriptor version] ++ back := by simp
  rw [split, inForce, changes_append, inForce_named, unchanged, List.append_nil, ← inForce,
    inForce_named]

/-- What is owed is the format in force. -/
theorem Owed.inForce_eq {descriptor : FormatDescriptor} (owed : Owed initial marks descriptor) :
    inForce initial marks = some descriptor := by
  obtain ⟨front, version, back, rfl, _, unchanged, _⟩ := owed
  exact inForce_of_unchanged unchanged

/-- A mark behind a history makes a format owed, or leaves it owed. -/
theorem owed_concat_iff {descriptor : FormatDescriptor} {mark : Mark} :
    Owed initial (marks ++ [mark]) descriptor ↔
      (∃ version, mark = .named descriptor version ∧ inForce initial marks ≠ some descriptor) ∨
        Owed initial marks descriptor ∧ changes (some descriptor) [mark] = [] ∧ ¬mark.Whole := by
  constructor
  · rintro ⟨front, version, back, split, change, same, torn⟩
    rcases History.eq_concat_iff.1 split with ⟨rfl, rfl, _⟩ | ⟨back, rfl, rfl⟩
    · exact .inl ⟨version, rfl, change⟩
    · rw [changes_append, List.append_eq_nil_iff] at same
      have still : inForce (some descriptor) back = some descriptor := by
        rw [inForce, same.1]
        rfl
      refine .inr ⟨⟨front, version, back, rfl, change, same.1, ?_⟩, still ▸ same.2, ?_⟩
      · intro other member
        exact torn other (List.mem_append_left _ member)
      · exact torn mark (List.mem_append_right _ List.mem_cons_self)
  · rintro (⟨version, rfl, change⟩ | ⟨⟨front, version, back, rfl, change, same, torn⟩, still, part⟩)
    · exact ⟨marks, version, [], rfl, change, rfl, List.forall_mem_nil _⟩
    · refine ⟨front, version, back ++ [mark], by simp, change, ?_, ?_⟩
      · rw [changes_append, same, List.nil_append, inForce, same]
        exact still
      · intro other member
        rcases List.mem_append.1 member with before | last
        · exact torn other before
        · rw [List.mem_singleton.1 last]
          exact part

/-- A format that is named is owed where it is a change; named again it changes nothing. -/
theorem owed_named_iff {descriptor other : FormatDescriptor} {version : FormatVersion} :
    Owed initial (marks ++ [.named other version]) descriptor ↔
      if inForce initial marks = some other then Owed initial marks descriptor
      else descriptor = other := by
  rw [owed_concat_iff]
  constructor
  · rintro (⟨_, same, change⟩ | ⟨owed, same, _⟩)
    · cases same
      rw [if_neg change]
    · rw [changes] at same
      split at same
      next again =>
        cases again
        rw [if_pos owed.inForce_eq]
        exact owed
      next => cases same
  · intro owed
    split at owed
    next again =>
      have last := owed.inForce_eq
      rw [again] at last
      cases last
      exact .inr ⟨owed, if_pos rfl, id⟩
    next change =>
      rw [owed]
      exact .inl ⟨version, rfl, change⟩

/-- A frame that goes out whole leaves nothing owed, and any other frame changes nothing. -/
theorem owed_sent_iff {descriptor : FormatDescriptor} {frame : Frame} {handed : List Packet}
    {whole : Bool} :
    Owed initial (marks ++ [.sent frame handed whole]) descriptor ↔
      whole = false ∧ Owed initial marks descriptor := by
  rw [owed_concat_iff]
  constructor
  · rintro (⟨_, other, _⟩ | ⟨owed, _, part⟩)
    · cases other
    · exact ⟨Bool.eq_false_iff.2 part, owed⟩
  · rintro ⟨rfl, owed⟩
    exact .inr ⟨owed, rfl, Bool.false_ne_true⟩

/-- Until the next change, a format is owed as long as no frame goes out whole. -/
theorem exists_owed_iff {descriptor : FormatDescriptor} {version : FormatVersion}
    {back : List Mark} (change : inForce initial marks ≠ some descriptor)
    (unchanged : changes (some descriptor) back = []) :
    (∃ other, Owed initial (marks ++ .named descriptor version :: back) other) ↔
      ∀ mark ∈ back, ¬mark.Whole := by
  constructor
  · rintro ⟨other, owed⟩
    -- No mark behind the change names another format, so what is owed was owed in front of it.
    induction back using List.reverseRecOn with
    | nil => exact List.forall_mem_nil _
    | append_singleton back mark ih =>
        rw [changes_append, List.append_eq_nil_iff] at unchanged
        have known : inForce initial (marks ++ .named descriptor version :: back) =
            some descriptor := inForce_of_unchanged unchanged.1
        rw [← List.cons_append, ← List.append_assoc, owed_concat_iff] at owed
        intro earlier member
        rcases List.mem_append.1 member with before | last
        · rcases owed with ⟨version, rfl, new⟩ | ⟨owed, _, _⟩
          · have same := unchanged.2
            rw [inForce, unchanged.1, changes] at same
            split at same
            next again =>
              rw [known] at new
              exact absurd again new
            next => cases same
          · exact ih unchanged.1 owed earlier before
        · rw [List.mem_singleton.1 last]
          rcases owed with ⟨version, rfl, _⟩ | ⟨_, _, part⟩
          · exact id
          · exact part
  · intro torn
    exact ⟨descriptor, marks, version, back, rfl, change, unchanged, torn⟩

/-- One more change takes the next version of the rotation. -/
theorem versionAt_succ (count : Nat) : versionAt (count + 1) = versionAt count % 7 + 1 := by
  unfold versionAt
  split
  next empty => exact absurd empty (Nat.succ_ne_zero count)
  next =>
    split
    next unset => rw [unset]
    next => omega

/-- Whether every mark of a history is lawful behind its front. -/
def AllLawful (initial : Option FormatDescriptor) (marks : List Mark) : Prop :=
  ∀ front mark back, marks = front ++ mark :: back → Lawful initial front mark

theorem allLawful_nil (initial : Option FormatDescriptor) : AllLawful initial [] := by
  intro front mark back empty
  simp at empty

theorem AllLawful.concat (lawful : AllLawful initial marks) {mark : Mark}
    (last : Lawful initial marks mark) : AllLawful initial (marks ++ [mark]) :=
  History.forall_concat lawful last

end Mark

/-! ## The formats of a sender -/

namespace Sender

/-- What a sender holds about formats is told by its history, and the history is lawful. -/
structure Versioned (initial : Option FormatDescriptor) (marks : List Mark) (sender : Sender) :
    Prop where
  /-- The version of session setup keeps its format. -/
  setup : sender.cache.lookup .outOfBand = initial
  /-- The format announced last is the one in force. -/
  announced : sender.announced = Mark.inForce initial marks
  /-- Packets go out under the version of the latest change. -/
  current : sender.current.val = Mark.versionAt (Mark.changes initial marks).length
  /-- The rotation goes on behind that version. -/
  assigned : sender.assigned = sender.current
  /-- The format in force stands under the version of outgoing packets. -/
  informed : sender.cache.lookup sender.current = sender.announced
  /-- What is due is what is owed. -/
  due_iff : ∀ descriptor, sender.due = some descriptor ↔ Mark.Owed initial marks descriptor
  lawful : Mark.AllLawful initial marks

namespace Versioned

variable {initial : Option FormatDescriptor} {marks : List Mark} {sender : Sender}

/-- A change takes the next version, and is due. -/
theorem change (versioned : sender.Versioned initial marks) {descriptor : FormatDescriptor}
    (change : sender.announced ≠ some descriptor) :
    (sender.announce descriptor).Versioned initial
      (marks ++ [.named descriptor (sender.announce descriptor).current]) := by
  have other : Mark.inForce initial marks ≠ some descriptor := by
    rw [← versioned.announced]
    exact change
  have counted (version : FormatVersion) :
      (Mark.changes initial (marks ++ [.named descriptor version])).length =
        (Mark.changes initial marks).length + 1 := by
    rw [Mark.changes_named, if_neg other, List.length_append]
    rfl
  have next : sender.assigned.nextInline.val =
      Mark.versionAt ((Mark.changes initial marks).length + 1) := by
    rw [Mark.versionAt_succ, ← versioned.current, versioned.assigned]
    rfl
  rw [announce, if_neg change]
  constructor
  · rw [FormatCache.lookup_store, if_neg sender.assigned.nextInline_ne_outOfBand]
    exact versioned.setup
  · rw [Mark.inForce_named]
  · rw [counted]
    exact next
  · rfl
  · rw [FormatCache.lookup_store, if_pos rfl]
  · intro named
    rw [Mark.owed_named_iff, if_neg other]
    exact Option.some_inj.trans eq_comm
  · apply versioned.lawful.concat
    rw [Mark.Lawful, counted]
    exact next

/-- A format that is named again changes nothing. -/
theorem again (versioned : sender.Versioned initial marks) {descriptor : FormatDescriptor}
    (same : sender.announced = some descriptor) :
    (sender.announce descriptor).Versioned initial
      (marks ++ [.named descriptor (sender.announce descriptor).current]) := by
  have known : Mark.inForce initial marks = some descriptor := by
    rw [← versioned.announced]
    exact same
  have counted (version : FormatVersion) :
      Mark.changes initial (marks ++ [.named descriptor version]) = Mark.changes initial marks := by
    rw [Mark.changes_named, if_pos known]
  rw [announce, if_pos same]
  constructor
  · exact versioned.setup
  · rw [Mark.inForce_named]
    exact same
  · rw [counted]
    exact versioned.current
  · exact versioned.assigned
  · exact versioned.informed
  · intro named
    rw [Mark.owed_named_iff, if_pos known]
    exact versioned.due_iff named
  · apply versioned.lawful.concat
    rw [Mark.Lawful, counted]
    exact versioned.current

theorem announce (versioned : sender.Versioned initial marks) (descriptor : FormatDescriptor) :
    (sender.announce descriptor).Versioned initial
      (marks ++ [.named descriptor (sender.announce descriptor).current]) := by
  by_cases same : sender.announced = some descriptor
  · exact versioned.again same
  · exact versioned.change same

/-- The packets of the next frame are lawful, however far they get. -/
theorem lawful_sent (versioned : sender.Versioned initial marks) {frame : Frame}
    {handed : List Packet} {whole : Bool} (inOrder : handed <+: sender.fragments frame)
    (all : whole = true → handed = sender.fragments frame) :
    Mark.Lawful initial marks (.sent frame handed whole) := by
  refine ⟨sender.fragments frame, inOrder, all, ?_, ?_, ?_⟩
  · intro packet member
    rw [Receiver.header_of_mem_packetsFrom member]
    constructor
    · exact versioned.current
    · rw [header, Option.isSome_iff_exists]
      exact exists_congr versioned.due_iff
  · intro descriptor owed
    rw [carried_fragments, serialize, (versioned.due_iff descriptor).2 owed]
    simp [announcement, Varint.encodeField, FormatDescriptor.size]
  · intro nothing
    have settled : sender.due = none := by
      rw [Option.eq_none_iff_forall_ne_some]
      intro descriptor due
      exact nothing ⟨descriptor, (versioned.due_iff descriptor).1 due⟩
    rw [carried_fragments, serialize, settled]
    rfl

/-- A frame settles what is due exactly if it goes out whole. -/
theorem sent (versioned : sender.Versioned initial marks) {frame : Frame} {handed : List Packet}
    {whole : Bool} (inOrder : handed <+: sender.fragments frame)
    (all : whole = true → handed = sender.fragments frame) :
    (if whole then sender.settled else sender).Versioned initial
      (marks ++ [.sent frame handed whole]) := by
  have lawful := versioned.lawful.concat (versioned.lawful_sent inOrder all)
  cases whole with
  | false =>
      rw [if_neg Bool.false_ne_true]
      exact {
        setup := versioned.setup
        announced := by rw [Mark.inForce_sent, versioned.announced]
        current := by rw [Mark.changes_sent, versioned.current]
        assigned := versioned.assigned
        informed := versioned.informed
        due_iff := by
          intro descriptor
          rw [Mark.owed_sent_iff, versioned.due_iff]
          exact (and_iff_right rfl).symm
        lawful := lawful }
  | true =>
      rw [if_pos rfl]
      exact {
        setup := versioned.setup
        announced := by
          rw [Mark.inForce_sent, ← versioned.announced]
          rfl
        current := by
          rw [Mark.changes_sent, ← versioned.current]
          rfl
        assigned := versioned.assigned
        informed := versioned.informed
        due_iff := by
          intro descriptor
          rw [Mark.owed_sent_iff]
          refine iff_of_false ?_ (fun owed => Bool.false_ne_true owed.1.symm)
          intro due
          cases due
        lawful := lawful }

end Versioned

end Sender

/-! ## Runs -/

/-- One call of a sender. Every frame comes with the way in which its packets are taken. -/
inductive Sender.Call (σ : Type) where
  | announce (descriptor : FormatDescriptor)
  | send (push : Push σ) (frame : Frame)

/-- A sender with the state of whatever takes its packets, and their history. -/
structure Course (σ : Type) where
  sender : Sender
  state : σ
  marks : List Mark

namespace Course

variable {σ : Type}

/-- Makes one call. A frame that names a format names it before it is sent. -/
def perform (course : Course σ) : Sender.Call σ → Course σ
  | .announce descriptor => {
      course with
      sender := course.sender.announce descriptor
      marks := course.marks ++
        [.named descriptor (course.sender.announce descriptor).current] }
  | .send push frame => {
      sender := (course.sender.send push frame course.state).2.1
      state := (course.sender.send push frame course.state).2.2
      marks := course.marks ++
        frame.descriptor.toList.map (Mark.named · (course.sender.adopt frame).current) ++
        [.sent frame (course.sender.handed push frame course.state)
          (course.sender.goesWhole push frame course.state)] }

/-- Makes one call after the other. -/
def run (course : Course σ) (calls : List (Sender.Call σ)) : Course σ :=
  calls.foldl perform course

end Course

theorem Sender.Versioned.perform {σ : Type} {initial : Option FormatDescriptor}
    {course : Course σ} (versioned : course.sender.Versioned initial course.marks)
    (call : Sender.Call σ) :
    (course.perform call).sender.Versioned initial (course.perform call).marks := by
  cases call with
  | announce descriptor => exact versioned.announce descriptor
  | send push frame =>
      have adopted : (course.sender.adopt frame).Versioned initial (course.marks ++
          frame.descriptor.toList.map (Mark.named · (course.sender.adopt frame).current)) := by
        unfold adopt
        cases frame.descriptor with
        | none =>
            rw [Option.toList_none, List.map_nil, List.append_nil]
            exact versioned
        | some descriptor => exact versioned.announce descriptor
      obtain ⟨after, inOrder, all⟩ := course.sender.send_spec push frame course.state
      have sent := adopted.sent inOrder all
      rw [← after] at sent
      exact sent

theorem Sender.Versioned.run {σ : Type} {initial : Option FormatDescriptor} {course : Course σ}
    (versioned : course.sender.Versioned initial course.marks) (calls : List (Sender.Call σ)) :
    (course.run calls).sender.Versioned initial (course.run calls).marks := by
  induction calls generalizing course with
  | nil => exact versioned
  | cons call rest ih => exact ih (versioned.perform call)

theorem Sender.versioned_create {config : SenderConfig} {sender : Sender}
    (created : create config = .ok sender) : sender.Versioned config.initial [] := by
  unfold create at created
  split at created
  next =>
    cases created
    have setup : (FormatCache.seeded config.initial).lookup .outOfBand = config.initial := by
      rw [FormatCache.lookup_seeded, if_pos rfl]
    constructor
    · exact setup
    · rfl
    · rfl
    · rfl
    · exact setup
    · intro descriptor
      refine iff_of_false (fun due => by cases due) ?_
      rintro ⟨front, version, back, split, _⟩
      simp at split
    · exact Mark.allLawful_nil _
  next => cases created

namespace Course

/-- For every run of a sender, however its packets are taken: its formats are told by its history
and the history is lawful (`Sender.Versioned`), a change gets the next version of the rotation, and
a format named again leaves the sender as it was. Between a change and the next one, the frames up
to the first that goes out whole announce it, and no others. -/
theorem versioned_run (config : SenderConfig) (roomy : PacketHeader.size < config.mtu) :
    ∃ sender, Sender.create config = .ok sender ∧
      ∀ (σ : Type) (state : σ) (calls : List (Sender.Call σ)),
        let course := (Course.mk sender state []).run calls
        course.sender.Versioned config.initial course.marks ∧
          (∀ descriptor,
            if Mark.inForce config.initial course.marks = some descriptor then
              course.sender.announce descriptor = course.sender
            else
              (course.sender.announce descriptor).current.val =
                (Mark.changes config.initial course.marks).length % 7 + 1) ∧
          ∀ front descriptor version back frame handed whole rest,
            course.marks =
              front ++ .named descriptor version :: (back ++ .sent frame handed whole :: rest) →
            Mark.inForce config.initial front ≠ some descriptor →
            Mark.changes (some descriptor) back = [] →
            ∀ packet ∈ handed, packet.header.capsInline = true ↔ ∀ mark ∈ back, ¬mark.Whole := by
  obtain ⟨sender, created, _⟩ := Sender.create_of_roomy roomy
  refine ⟨sender, created, ?_⟩
  intro σ state calls course
  have versioned : course.sender.Versioned config.initial course.marks :=
    (Sender.versioned_create created).run calls
  refine ⟨versioned, ?_, ?_⟩
  · intro descriptor
    rw [← versioned.announced]
    split
    next same => rw [Sender.announce, if_pos same]
    next change =>
      have counted := (versioned.change change).current
      rw [versioned.announced] at change
      rw [Mark.changes_named, if_neg change, List.length_append] at counted
      exact counted
  · intro front descriptor version back frame handed whole rest history change unchanged packet
      member
    rw [← List.cons_append, ← List.append_assoc] at history
    obtain ⟨packets, inOrder, _, headers, _⟩ := versioned.lawful _ _ rest history
    rw [(headers packet (inOrder.subset member)).2]
    exact Mark.exists_owed_iff change unchanged

/-- A frame whose second packet is refused leaves the change owed, and the next frame announces it
again and settles it. -/
theorem versioned_run_refused :
    PacketHeader.size < 10 ∧
      ∃ sender, Sender.create ⟨10, some ⟨"setup"⟩⟩ = .ok sender ∧
        let push (_ : Packet) (asked : Nat) : Except TransportError Unit × Nat :=
          (if asked = 1 then .error .closed else .ok (), asked + 1)
        let frame : Frame := { Frame.blank with payload := [1, 2, 3] }
        let torn := (Course.mk sender 0 []).run [.announce ⟨"video"⟩, .send push frame]
        let whole := (Course.mk sender 0 []).run
          [.announce ⟨"video"⟩, .send push frame, .send push frame]
        Mark.Owed (some ⟨"setup"⟩) torn.marks ⟨"video"⟩ ∧
          Mark.AllLawful (some ⟨"setup"⟩) whole.marks ∧
          (∀ packet ∈ torn.sender.handed push frame torn.state,
            packet.header.capsInline = true) ∧
          ∀ descriptor, ¬Mark.Owed (some ⟨"setup"⟩) whole.marks descriptor := by
  have roomy : PacketHeader.size < 10 := by decide
  obtain ⟨sender, created, versioned⟩ := versioned_run ⟨10, some ⟨"setup"⟩⟩ roomy
  refine ⟨roomy, sender, created, ?_⟩
  intro push frame torn whole
  have behindTorn := (versioned Nat 0 [.announce ⟨"video"⟩, .send push frame]).1
  obtain ⟨behindWhole, _, announces⟩ :=
    versioned Nat 0 [.announce ⟨"video"⟩, .send push frame, .send push frame]
  have again := announces [] ⟨"video"⟩ 1
    [.sent frame ((sender.announce ⟨"video"⟩).handed push frame 0) false] frame
    (torn.sender.handed push frame torn.state) true []
  cases created
  refine ⟨(behindTorn.due_iff ⟨"video"⟩).1 (by decide +kernel), behindWhole.lawful, ?_, ?_⟩
  · intro packet member
    apply (again (by decide +kernel) (by decide) rfl packet member).2
    intro mark first
    rw [List.mem_singleton.1 first]
    exact Bool.false_ne_true
  · intro descriptor owed
    have due := (behindWhole.due_iff descriptor).2 owed
    have settled : whole.sender.due = none := by decide +kernel
    exact Option.some_ne_none descriptor (due.symm.trans settled)

end Course

end FrameLink

import FrameLink.Carrier.Sequence
import FrameLink.Proofs.Sender.Announced
import FrameLink.Proofs.Sender.Fragments
import FrameLink.Stream.Writer

/-!
# Writing over a sink that may refuse

A sink numbers the datagrams that it takes one after the other, and may refuse any of them; what it
refuses leaves no trace (`Outlet`). Whatever is written over it, the bytes on the wire are the
fronts of the frames in order, each as long as its write got (`Line.Sound`).
-/

namespace FrameLink

open FrameLink.Sender (greatestFrame)
open FrameLink.Transport (DatagramSink TransportError)

/-! ## Labels -/

/-- What a sink puts on the datagrams of one line, the number of the first one included. -/
structure Labels where
  payloadType : UInt8
  streamId : UInt32
  first : UInt16
  deriving DecidableEq, Repr

namespace Labels

/-- The number of the datagram at a position. -/
def sequence (labels : Labels) (position : Nat) : UInt16 :=
  labels.first + UInt16.ofNat position

/-- The bytes of a packet at a position. -/
def raw (labels : Labels) (position : Nat) (packet : Packet) : Bytes :=
  packet.toDatagram.wire labels.payloadType (labels.sequence position) labels.streamId

/-- The bytes of consecutive packets, the first of which stands at a position. -/
def rawFrom (labels : Labels) (position : Nat) : List Packet → List Bytes
  | [] => []
  | packet :: rest => labels.raw position packet :: labels.rawFrom (position + 1) rest

@[simp] theorem length_rawFrom (labels : Labels) (position : Nat) (packets : List Packet) :
    (labels.rawFrom position packets).length = packets.length := by
  induction packets generalizing position with
  | nil => rfl
  | cons packet rest ih => rw [rawFrom, List.length_cons, List.length_cons, ih]

theorem rawFrom_append (labels : Labels) (position : Nat) (front back : List Packet) :
    labels.rawFrom position (front ++ back) =
      labels.rawFrom position front ++ labels.rawFrom (position + front.length) back := by
  induction front generalizing position with
  | nil => rfl
  | cons packet front ih =>
      rw [List.cons_append, rawFrom, rawFrom, ih, List.cons_append, List.length_cons,
        Nat.add_assoc, Nat.add_comm 1]

theorem getElem?_rawFrom (labels : Labels) (position index : Nat) (packets : List Packet) :
    (labels.rawFrom position packets)[index]? =
      packets[index]?.map (labels.raw (position + index)) := by
  induction packets generalizing position index with
  | nil => rfl
  | cons packet rest ih =>
      cases index with
      | zero => rfl
      | succ index =>
          rw [rawFrom, List.getElem?_cons_succ, List.getElem?_cons_succ, ih, Nat.add_assoc,
            Nat.add_comm 1]

end Labels

/-! ## The sink -/

/-- A sink that numbers what it takes. It may refuse any datagram, told by how often it was asked
before. -/
structure Outlet where
  labels : Labels
  refuse : Nat → Option TransportError
  /-- How often it was asked. -/
  asked : Nat
  /-- The datagrams taken, in order. -/
  wire : List Bytes

namespace Outlet

/-- A sink that was never asked. -/
def fresh (labels : Labels) (refuse : Nat → Option TransportError) : Outlet :=
  ⟨labels, refuse, 0, []⟩

/-- Takes a datagram under the next number, or refuses it. -/
def send (datagram : Datagram) (outlet : Outlet) : Except TransportError Unit × Outlet :=
  match outlet.refuse outlet.asked with
  | some error => (.error error, { outlet with asked := outlet.asked + 1 })
  | none =>
      let raw := datagram.wire outlet.labels.payloadType
        (outlet.labels.sequence outlet.wire.length) outlet.labels.streamId
      (.ok (), { outlet with asked := outlet.asked + 1, wire := outlet.wire ++ [raw] })

instance : DatagramSink Outlet where
  send := send

/-- The sink once it was asked so often and has taken these packets as well. -/
def taken (outlet : Outlet) (asked : Nat) (packets : List Packet) : Outlet :=
  { outlet with
    asked
    wire := outlet.wire ++ outlet.labels.rawFrom outlet.wire.length packets }

theorem taken_nil (outlet : Outlet) : outlet.taken outlet.asked [] = outlet := by
  rw [taken, Labels.rawFrom, List.append_nil]

/-- A sink takes packets up to the first one that it refuses. -/
theorem pushAll_outlet (packets : List Packet) (outlet : Outlet) :
    ∃ sent failure asked,
      pushAll pushTo packets outlet = (⟨sent, failure⟩, outlet.taken asked (packets.take sent)) ∧
        sent ≤ packets.length ∧ (failure = none ↔ sent = packets.length) := by
  induction packets generalizing outlet with
  | nil => exact ⟨0, none, outlet.asked, by simp [pushAll, taken, Labels.rawFrom], by simp⟩
  | cons packet rest ih =>
      cases refused : outlet.refuse outlet.asked with
      | some error =>
          refine ⟨0, some error, outlet.asked + 1, ?_, by simp⟩
          have pushed : pushTo packet outlet =
              (.error error, outlet.taken (outlet.asked + 1) []) := by
            simp [pushTo, DatagramSink.send, send, refused, taken, Labels.rawFrom]
          rw [pushAll, pushed]
          rfl
      | none =>
          obtain ⟨sent, failure, asked, others, inside, complete⟩ :=
            ih (outlet.taken (outlet.asked + 1) [packet])
          refine ⟨sent + 1, failure, asked, ?_, by simpa using inside, by simpa using complete⟩
          have pushed : pushTo packet outlet =
              (.ok (), outlet.taken (outlet.asked + 1) [packet]) := by
            simp [pushTo, DatagramSink.send, send, refused, taken, Labels.rawFrom, Labels.raw]
          rw [pushAll, pushed]
          simp only [others]
          simp [taken, Labels.rawFrom]

end Outlet

/-! ## Attempts -/

/-- One frame that was written, and what its write came to. -/
structure Attempt where
  /-- The sender once it had taken over the format of the frame. -/
  sender : Sender
  frame : Frame
  result : Except FrameError Nat
  deriving Repr

namespace Attempt

/-- Whether the write succeeded. -/
def written (attempt : Attempt) : Bool :=
  match attempt.result with
  | .ok _ => true
  | .error _ => false

/-- How many packets went out. -/
def sent (attempt : Attempt) : Nat :=
  match attempt.result with
  | .ok sent => sent
  | .error (.pushFailed sent _) => sent
  | .error _ => 0

/-- The bytes of the frame, its announcement included. -/
def bytes (attempt : Attempt) : Bytes :=
  attempt.sender.serialize attempt.frame

/-- All packets of the frame. -/
def fragments (attempt : Attempt) : List Packet :=
  attempt.sender.fragments attempt.frame

/-- The packets that went out. -/
def packets (attempt : Attempt) : List Packet :=
  attempt.fragments.take attempt.sent

/-- The sender after the write, which still owes the announcement that a failed write carried. -/
def after (attempt : Attempt) : Sender :=
  if attempt.written then attempt.sender.settled else attempt.sender

/-- A write succeeds with the last packet, and only a frame with short offsets has packets. -/
structure Sound (attempt : Attempt) : Prop where
  short : attempt.sent ≠ 0 → attempt.bytes.length ≤ greatestFrame
  sent_le : attempt.sent ≤ attempt.fragments.length
  written_iff : attempt.written = true ↔
    attempt.bytes.length ≤ greatestFrame ∧ attempt.sent = attempt.fragments.length

theorem Sound.length_packets {attempt : Attempt} (sound : attempt.Sound) :
    attempt.packets.length = attempt.sent := by
  rw [packets, List.length_take]
  exact Nat.min_eq_left sound.sent_le

end Attempt

/-- The record of a write. -/
def Sender.attempt (sender : Sender) (frame : Frame) (outlet : Outlet) : Attempt :=
  ⟨sender.adopt frame, frame, (sender.write frame outlet).1⟩

namespace Attempt

variable {sender : Sender} {frame : Frame} {sent : Nat}

theorem sound_ok (short : (sender.serialize frame).length ≤ greatestFrame)
    (all : sent = (sender.fragments frame).length) :
    (Attempt.mk sender frame (.ok sent)).Sound where
  short := fun _ => short
  sent_le := Nat.le_of_eq all
  written_iff := iff_of_true rfl ⟨short, all⟩

theorem sound_pushFailed (failure : TransportError)
    (short : (sender.serialize frame).length ≤ greatestFrame)
    (part : sent < (sender.fragments frame).length) :
    (Attempt.mk sender frame (.error (.pushFailed sent failure))).Sound where
  short := fun _ => short
  sent_le := Nat.le_of_lt part
  written_iff := iff_of_false Bool.false_ne_true fun whole => Nat.ne_of_lt part whole.2

theorem sound_tooLong (long : greatestFrame < (sender.serialize frame).length) (size most : Nat) :
    (Attempt.mk sender frame (.error (.frameTooLarge size most))).Sound where
  short := fun somePacket => absurd rfl somePacket
  sent_le := Nat.zero_le _
  written_iff := iff_of_false Bool.false_ne_true fun whole => Nat.not_le_of_lt long whole.1

end Attempt

/-- What a write leaves behind is told by its record. -/
theorem Sender.write_outlet (sender : Sender) (frame : Frame) (outlet : Outlet) :
    (sender.attempt frame outlet).Sound ∧
      (sender.write frame outlet).2.1 = (sender.attempt frame outlet).after ∧
      ∃ asked, (sender.write frame outlet).2.2 =
        outlet.taken asked (sender.attempt frame outlet).packets := by
  by_cases short : ((sender.adopt frame).serialize frame).length ≤ greatestFrame
  · obtain ⟨sent, failure, asked, pushed, inside, complete⟩ :=
      Outlet.pushAll_outlet ((sender.adopt frame).fragments frame) outlet
    cases failure with
    | none =>
        have written : sender.write frame outlet =
            (.ok sent, (sender.adopt frame).settled,
              outlet.taken asked (((sender.adopt frame).fragments frame).take sent)) := by
          simp only [write, send, packets_of_short short, pushed]
        rw [attempt, written]
        exact ⟨Attempt.sound_ok short (complete.1 rfl), rfl, asked, rfl⟩
    | some failure =>
        have written : sender.write frame outlet =
            (.error (.pushFailed sent failure), sender.adopt frame,
              outlet.taken asked (((sender.adopt frame).fragments frame).take sent)) := by
          simp only [write, send, packets_of_short short, pushed]
        have part : sent < ((sender.adopt frame).fragments frame).length := by
          apply Nat.lt_of_le_of_ne inside
          intro all
          cases complete.2 all
        rw [attempt, written]
        exact ⟨Attempt.sound_pushFailed failure short part, rfl, asked, rfl⟩
  · have long := Nat.lt_of_not_le short
    have written : sender.write frame outlet =
        (.error (.frameTooLarge ((sender.adopt frame).serialize frame).length greatestFrame),
          sender.adopt frame, outlet) := by
      simp only [write, send, packets_of_long long]
    rw [attempt, written]
    refine ⟨Attempt.sound_tooLong long _ _, rfl, outlet.asked, ?_⟩
    rw [Attempt.packets, Attempt.sent, List.take_zero, Outlet.taken_nil]

/-! ## Runs -/

/-- A sender with the sink that it writes to, and what was written so far. -/
structure Line where
  sender : Sender
  outlet : Outlet
  log : List Attempt

namespace Line

/-- A sender with a sink that was never asked. -/
def fresh (sender : Sender) (labels : Labels) (refuse : Nat → Option TransportError) : Line :=
  ⟨sender, .fresh labels refuse, []⟩

/-- Does one thing. -/
def perform (line : Line) : Action → Line
  | .announce descriptor => { line with sender := line.sender.announce descriptor }
  | .send frame => {
      sender := (line.sender.write frame line.outlet).2.1
      outlet := (line.sender.write frame line.outlet).2.2
      log := line.log ++ [line.sender.attempt frame line.outlet] }

/-- Does one thing after the other. -/
def run (line : Line) (actions : List Action) : Line :=
  actions.foldl perform line

theorem run_concat (line : Line) (actions : List Action) (action : Action) :
    line.run (actions ++ [action]) = (line.run actions).perform action := by
  rw [run, run, List.foldl_append]
  rfl

/-- All packets that went out. -/
def packets (log : List Attempt) : List Packet :=
  log.flatMap Attempt.packets

/-- The wire holds what the log tells, and the sender is in order. -/
structure Sound (initial : Option FormatDescriptor) (actions : List Action) (line : Line) :
    Prop where
  coherent : line.sender.Coherent
  announced : line.sender.announced = lastNamed initial actions
  log : ∀ attempt ∈ line.log, attempt.Sound
  wire : line.outlet.wire = line.outlet.labels.rawFrom 0 (packets line.log)

/-- A frame is written under the format that was named last. -/
theorem Sound.announced_adopt {initial : Option FormatDescriptor} {actions : List Action}
    {line : Line} (sound : line.Sound initial actions) (frame : Frame) :
    (line.sender.adopt frame).announced = lastNamed initial (actions ++ [.send frame]) := by
  rw [lastNamed_concat, Sender.announced_adopt, sound.announced]
  rfl

/-- What a write adds to the wire is told by its record. -/
theorem Sound.wire_send {initial : Option FormatDescriptor} {actions : List Action} {line : Line}
    (sound : line.Sound initial actions) (frame : Frame) :
    (line.perform (.send frame)).outlet.wire =
      line.outlet.wire ++ line.outlet.labels.rawFrom (packets line.log).length
        (line.sender.attempt frame line.outlet).packets := by
  obtain ⟨_, _, asked, outlet⟩ := line.sender.write_outlet frame line.outlet
  have length : line.outlet.wire.length = (packets line.log).length := by
    rw [sound.wire, Labels.length_rawFrom]
  simp only [Line.perform, outlet, Outlet.taken, length]

/-- Doing one more thing leaves a line in order. -/
theorem Sound.perform {initial : Option FormatDescriptor} {actions : List Action} {line : Line}
    (sound : line.Sound initial actions) (action : Action) :
    (line.perform action).Sound initial (actions ++ [action]) := by
  cases action with
  | announce descriptor =>
      exact {
        coherent := sound.coherent.announce descriptor
        announced := by
          rw [lastNamed_concat]
          exact Sender.announced_announce line.sender descriptor
        log := sound.log
        wire := sound.wire }
  | send frame =>
      obtain ⟨recorded, sender, asked, outlet⟩ := line.sender.write_outlet frame line.outlet
      have coherent := sound.coherent.adopt frame
      have announced := sound.announced_adopt frame
      constructor
      · rw [Line.perform, sender, Attempt.after]
        split
        next => exact coherent.settled
        next => exact coherent
      · rw [Line.perform, sender, Attempt.after]
        split
        next => exact announced
        next => exact announced
      · intro attempt member
        rcases List.mem_append.1 member with earlier | last
        · exact sound.log attempt earlier
        · rw [List.mem_singleton.1 last]
          exact recorded
      · have labels : (line.perform (.send frame)).outlet.labels = line.outlet.labels := by
          rw [Line.perform, outlet]
          rfl
        rw [sound.wire_send, sound.wire, labels, Line.perform, packets, packets,
          List.flatMap_append, List.flatMap_singleton, Labels.rawFrom_append, Nat.zero_add]

/-- Whatever is done leaves a line in order. -/
theorem Sound.run {initial : Option FormatDescriptor} {earlier : List Action} {line : Line}
    (sound : line.Sound initial earlier) (actions : List Action) :
    (line.run actions).Sound initial (earlier ++ actions) := by
  induction actions generalizing earlier line with
  | nil =>
      rw [List.append_nil]
      exact sound
  | cons action rest ih =>
      rw [← List.singleton_append, ← List.append_assoc]
      exact ih (sound.perform action)

/-- A line on which nothing was written yet is in order. -/
theorem sound_fresh {config : SenderConfig} {sender : Sender}
    (created : Sender.create config = .ok sender) (announced : sender.announced = config.initial)
    (labels : Labels) (refuse : Nat → Option TransportError) :
    (fresh sender labels refuse).Sound config.initial [] where
  coherent := Sender.coherent_create created
  announced := announced
  log := List.forall_mem_nil _
  wire := rfl

end Line

end FrameLink

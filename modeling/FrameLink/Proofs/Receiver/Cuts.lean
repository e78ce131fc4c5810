import FrameLink.Proofs.Receiver.Calls
import Mathlib.Data.List.Basic

/-!
# Frames cut into packets

A frame may be cut anywhere. What a receiver that waits for a frame makes of the packets hangs on
the bytes that they carry together and on the header of the last one; the headers in front of it and
packets without bytes in between make no difference (`acceptAll_cut`). So a frame is read as it
would be read out of a single packet (`acceptAll_eq_accept_whole`).
-/

namespace FrameLink.Receiver

/-! ## Packets in order -/

/-- Takes packets in order. -/
def acceptAll (receiver : Receiver) : List Packet → List Answer × Receiver
  | [] => ([], receiver)
  | packet :: rest =>
      let first := receiver.accept packet
      let others := first.2.acceptAll rest
      (first.1 :: others.1, others.2)

theorem acceptAll_cons {receiver after : Receiver} {packet : Packet} {answer : Answer}
    (accepted : receiver.accept packet = (answer, after)) (rest : List Packet) :
    receiver.acceptAll (packet :: rest) =
      (answer :: (after.acceptAll rest).1, (after.acceptAll rest).2) := by
  rw [acceptAll, accepted]

theorem acceptAll_append (receiver : Receiver) (front back : List Packet) :
    receiver.acceptAll (front ++ back) =
      ((receiver.acceptAll front).1 ++ ((receiver.acceptAll front).2.acceptAll back).1,
        ((receiver.acceptAll front).2.acceptAll back).2) := by
  induction front generalizing receiver with
  | nil => rfl
  | cons first rest ih =>
      rw [List.cons_append, acceptAll, ih]
      rfl

@[simp] theorem length_acceptAll (receiver : Receiver) (packets : List Packet) :
    (receiver.acceptAll packets).1.length = packets.length := by
  induction packets generalizing receiver with
  | nil => rfl
  | cons packet rest ih => rw [acceptAll, List.length_cons, List.length_cons, ih]

/-- The bytes that packets carry. -/
def carried (packets : List Packet) : Bytes :=
  (packets.map Packet.payload).flatten

theorem carried_cons (packet : Packet) (rest : List Packet) :
    carried (packet :: rest) = packet.payload ++ carried rest := by
  rw [carried, List.map_cons, List.flatten_cons, carried]

theorem carried_append (front back : List Packet) :
    carried (front ++ back) = carried front ++ carried back := by
  rw [carried, carried, carried, List.map_append, List.flatten_append]

@[simp] theorem carried_singleton (packet : Packet) : carried [packet] = packet.payload := by
  simp [carried]

/-- The front of packets carries no more than all of them. -/
theorem length_carried_take_le (packets : List Packet) (count : Nat) :
    (carried (packets.take count)).length ≤ (carried packets).length := by
  have parts := carried_append (packets.take count) (packets.drop count)
  rw [List.take_append_drop] at parts
  rw [parts, List.length_append]
  exact Nat.le_add_right _ _

/-! ## Cuts -/

/-- Whether packets go on with a frame of which so many bytes are there, and do not end it: whatever
carries bytes stands where the ones in front of it end, without the marker, and once there are bytes
nothing comes behind a gap. Nothing else is said about their headers. -/
def Inner (held : Nat) : List Packet → Prop
  | [] => True
  | packet :: rest =>
      (held ≠ 0 → packet.discont = false) ∧
      (packet.payload ≠ [] → packet.header.offset.toNat = held ∧ packet.marker = false) ∧
      Inner (held + packet.payload.length) rest

instance decidableInner : (held : Nat) → (packets : List Packet) → Decidable (Inner held packets)
  | _, [] => inferInstanceAs (Decidable True)
  | held, packet :: rest =>
      have : Decidable (Inner (held + packet.payload.length) rest) := decidableInner _ rest
      inferInstanceAs (Decidable (_ ∧ _ ∧ _))

/-- A packet that ends a frame of which so many bytes are there. -/
structure Ends (held : Nat) (last : Packet) : Prop where
  someByte : last.payload ≠ []
  place : last.header.offset.toNat = held
  marker : last.marker = true
  plain : held ≠ 0 → last.discont = false

/-- Data cut into packets: those in front go on with the frame, the last one ends it, and together
they carry the data. -/
structure Cut (data : Bytes) (front : List Packet) (last : Packet) : Prop where
  inner : Inner 0 front
  ends : Ends (carried front).length last
  carries : carried front ++ last.payload = data

/-- A receiver that waits for a frame has nothing at hand. -/
theorem holding_nil_of_waiting {receiver : Receiver} (waiting : receiver.pending = .empty) :
    receiver.holding [] = receiver := by
  rw [holding_nil, discard, ← waiting]

theorem size_of_waiting {receiver : Receiver} (waiting : receiver.pending = .empty) :
    receiver.pending.size = 0 := by
  rw [waiting]
  rfl

section Steps

variable {receiver : Receiver} {front : Bytes} {packet : Packet}

/-- Without a gap, or without bytes at hand, a packet meets the bytes at hand. -/
theorem meets_holding (plain : front.length ≠ 0 → packet.discont = false) :
    (receiver.holding front).meets packet = front := by
  cases gap : packet.discont with
  | false => rw [meets_of_plain gap, toBytes_holding]
  | true =>
      rw [meets_of_discont gap]
      cases front with
      | nil => rfl
      | cons byte rest =>
          rw [plain (Nat.succ_ne_zero _)] at gap
          cases gap

/-- A packet that does not end a frame leaves its bytes behind those at hand. -/
theorem accept_inner (plain : front.length ≠ 0 → packet.discont = false)
    (place : packet.payload ≠ [] →
      packet.header.offset.toNat = front.length ∧ packet.marker = false)
    (fits : (front ++ packet.payload).length ≤ receiver.config.maxFrameSize) :
    (receiver.holding front).accept packet =
      (.ok none, receiver.holding (front ++ packet.payload)) := by
  by_cases empty : packet.payload = []
  · rw [accept_of_empty _ empty, meets_holding plain, empty, List.append_nil]
    rfl
  · obtain ⟨offset, unmarked⟩ := place empty
    rw [accept_meeting, meets_holding plain]
    refine (gather_holding receiver front packet empty).trans ?_
    rw [if_neg (not_not_intro offset), if_neg (Nat.not_lt.2 fits), unmarked,
      if_neg Bool.false_ne_true]

/-- A packet that ends a frame completes it. -/
theorem Ends.completes (ends : Ends front.length packet)
    (fits : (front ++ packet.payload).length ≤ receiver.config.maxFrameSize) :
    (receiver.holding front).Completes packet (front ++ packet.payload) where
  someByte := ends.someByte
  place := by
    rw [meets_holding ends.plain]
    exact ends.place
  marker := ends.marker
  whole := by rw [meets_holding ends.plain]
  fits := fits

theorem accept_ends (ends : Ends front.length packet)
    (fits : (front ++ packet.payload).length ≤ receiver.config.maxFrameSize) :
    (receiver.holding front).accept packet =
      complete (receiver.holding []) packet.header packet.timestamp (front ++ packet.payload) := by
  rw [(ends.completes fits).accept, discard_holding]

end Steps

/-- Packets that do not end a frame leave their bytes behind those at hand. -/
theorem acceptAll_inner (receiver : Receiver) {packets : List Packet} {front : Bytes}
    (inner : Inner front.length packets)
    (fits : (front ++ carried packets).length ≤ receiver.config.maxFrameSize) :
    (receiver.holding front).acceptAll packets =
      (List.replicate packets.length (.ok none), receiver.holding (front ++ carried packets)) := by
  induction packets generalizing front with
  | nil =>
      rw [carried, List.map_nil, List.flatten_nil, List.append_nil]
      rfl
  | cons packet rest ih =>
      obtain ⟨plain, place, others⟩ := inner
      rw [carried_cons, ← List.append_assoc] at fits
      have shorter : (front ++ packet.payload).length ≤ receiver.config.maxFrameSize := by
        rw [List.length_append] at fits
        exact Nat.le_of_add_right_le fits
      rw [← List.length_append] at others
      rw [acceptAll_cons (accept_inner plain place shorter), ih others fits, carried_cons,
        List.append_assoc]
      rfl

/-- A frame that arrives in packets is read under the header and the timestamp of the last one. -/
theorem acceptAll_cut (receiver : Receiver) {data : Bytes} {front : List Packet} {last : Packet}
    (cut : Cut data front last) (fits : data.length ≤ receiver.config.maxFrameSize) :
    (receiver.holding []).acceptAll (front ++ [last]) =
      (List.replicate front.length (.ok none) ++
          [(complete (receiver.holding []) last.header last.timestamp data).1],
        (complete (receiver.holding []) last.header last.timestamp data).2) := by
  obtain ⟨inner, ends, rfl⟩ := cut
  have shorter : (carried front).length ≤ receiver.config.maxFrameSize := by
    rw [List.length_append] at fits
    exact Nat.le_of_add_right_le fits
  have held := @acceptAll_inner receiver front [] inner shorter
  rw [List.nil_append] at held
  rw [acceptAll_append, held, acceptAll_cons (accept_ends ends fits)]
  rfl

/-- However data are cut into packets, and whatever packets without bytes come in between, a
receiver that waits for a frame says nothing until the last one. There it answers, and goes on, as
if a single packet had brought all of the data under the header and the timestamp of the last
one. -/
theorem acceptAll_eq_accept_whole {receiver : Receiver} (waiting : receiver.pending = .empty)
    {data : Bytes} {front : List Packet} {last : Packet} (cut : Cut data front last)
    (fits : data.length ≤ receiver.config.maxFrameSize) (gap : Bool) :
    let whole : Packet :=
      { last with
        header := { last.header with offset := 0 }
        discont := gap
        payload := data }
    receiver.acceptAll (front ++ [last]) =
      (List.replicate front.length (.ok none) ++ [(receiver.accept whole).1],
        (receiver.accept whole).2) := by
  intro whole
  have someByte : data ≠ [] := by
    rw [← cut.carries]
    exact List.append_ne_nil_of_right_ne_nil _ cut.ends.someByte
  have ends : Ends ([] : Bytes).length whole := ⟨someByte, rfl, cut.ends.marker, absurd rfl⟩
  have single := accept_ends ends fits
  have read := receiver.acceptAll_cut cut fits
  rw [holding_nil_of_waiting waiting] at single read
  rw [single]
  exact read

/-- An announcement in two pieces and a payload behind it: under other headers, behind a gap, and
with two packets in between that carry nothing. -/
theorem acceptAll_eq_accept_whole_scattered :
    let other : PacketHeader := ⟨false, 6, .delta, 9, 0⟩
    let hollow : Packet := ⟨{ other with offset := 5 }, true, false, 3, []⟩
    let first : Packet := ⟨other, false, true, 4, [2]⟩
    let second : Packet := ⟨{ other with offset := 1 }, false, false, 4, [118, 0]⟩
    let last : Packet := ⟨⟨true, 5, .none, 0, 3⟩, true, false, 8, [7]⟩
    let whole : Packet := ⟨⟨true, 5, .none, 0, 0⟩, true, false, 8, [2, 118, 0, 7]⟩
    let receiver := create ⟨none, 4⟩
    receiver.pending = .empty ∧ Cut [2, 118, 0, 7] [hollow, first, hollow, second] last ∧
      (receiver.accept whole).1 = .ok (some (.frame ⟨[7], .none, 5, ⟨"v"⟩, true, 8⟩)) ∧
      receiver.acceptAll [hollow, first, hollow, second, last] =
        (List.replicate 4 (.ok none) ++ [(receiver.accept whole).1],
          (receiver.accept whole).2) := by
  intro other hollow first second last whole receiver
  have cut : Cut [2, 118, 0, 7] [hollow, first, hollow, second] last := {
    inner := by decide
    ends := ⟨by decide, rfl, rfl, fun _ => rfl⟩
    carries := rfl }
  refine ⟨rfl, cut, by decide +kernel, ?_⟩
  exact acceptAll_eq_accept_whole rfl cut (Nat.le_refl 4) false

end FrameLink.Receiver

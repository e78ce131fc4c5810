import FrameLink.Proofs.Histories
import FrameLink.Proofs.Receiver.Calls
import FrameLink.Proofs.Receiver.Fragments
import Mathlib.Data.List.Induction
import Mathlib.Tactic.ByContra

/-!
# Blocks

Whatever a receiver is called with, the bytes at hand are those of one block of packets, received
without anything in between but packets that carry nothing (`Gathers`). A delivery is what such a
block reads as, under the header and the timestamp of its last packet (`read_of_delivered`).
-/

namespace FrameLink.Receiver

/-! ## Stretches of a log -/

/-- The packets of a log that carry bytes. -/
def filled (log : List Entry) : List Packet :=
  (log.filterMap (·.call.packet?)).filter fun packet => !packet.payload.isEmpty

/-- A stretch of a log that gathers one block: it starts with a packet that carries bytes, goes on
with packets alone, none of which comes behind a gap or is refused, and every packet that carries
bytes stands where the ones in front of it end. -/
structure Gathers (stretch : List Entry) : Prop where
  starts : ∃ entry rest packet, stretch = entry :: rest ∧ entry.call.packet? = some packet ∧
    packet.payload ≠ []
  unbroken : ∀ entry ∈ stretch.tail, ∃ packet, entry.call.packet? = some packet ∧
    packet.discont = false
  answered : ∀ entry ∈ stretch, ∃ delivery, entry.answer = .ok delivery
  inPlace : ∀ front packet back, filled stretch = front ++ packet :: back →
    packet.header.offset.toNat = (carried front).length

/-- A stretch whose block has not ended yet. -/
def Open (stretch : List Entry) : Prop :=
  Gathers stretch ∧ ∀ packet ∈ filled stretch, packet.marker = false

theorem filled_append (front back : List Entry) :
    filled (front ++ back) = filled front ++ filled back := by
  rw [filled, filled, filled, List.filterMap_append, List.filter_append]

section Brings

variable {entry : Entry} {packet : Packet}

theorem filled_of_bytes (brings : entry.call.packet? = some packet)
    (someByte : packet.payload ≠ []) : filled [entry] = [packet] := by
  simp [filled, brings, someByte]

theorem filled_of_empty (brings : entry.call.packet? = some packet)
    (empty : packet.payload = []) : filled [entry] = [] := by
  simp [filled, brings, empty]

/-- A packet at offset 0 starts a block. -/
theorem gathers_singleton (brings : entry.call.packet? = some packet)
    (someByte : packet.payload ≠ []) {delivery : Option Delivery}
    (answer : entry.answer = .ok delivery) (start : packet.header.offset.toNat = 0) :
    Gathers [entry] where
  starts := ⟨entry, [], packet, rfl, brings, someByte⟩
  unbroken := List.forall_mem_nil _
  answered := by
    intro other member
    rw [List.mem_singleton.1 member]
    exact ⟨delivery, answer⟩
  inPlace := by
    intro front other back split
    rw [filled_of_bytes brings someByte] at split
    obtain ⟨rfl, same⟩ : front = [] ∧ packet = other := by
      cases front with
      | nil => exact ⟨rfl, (List.cons.inj split).1⟩
      | cons first front => simp at split
    rw [← same]
    exact start

variable {stretch : List Entry}

/-- The next packet goes on with a block. -/
theorem Gathers.concat (gathers : Gathers stretch) (brings : entry.call.packet? = some packet)
    (plain : packet.discont = false) {delivery : Option Delivery}
    (answer : entry.answer = .ok delivery)
    (place : packet.payload ≠ [] →
      packet.header.offset.toNat = (carried (filled stretch)).length) :
    Gathers (stretch ++ [entry]) := by
  obtain ⟨first, rest, opening, rfl, bringsFirst, someByte⟩ := gathers.starts
  constructor
  · exact ⟨first, rest ++ [entry], opening, rfl, bringsFirst, someByte⟩
  · intro other member
    rcases List.mem_append.1 member with earlier | last
    · exact gathers.unbroken other earlier
    · rw [List.mem_singleton.1 last]
      exact ⟨packet, brings, plain⟩
  · intro other member
    rcases List.mem_append.1 member with earlier | last
    · exact gathers.answered other earlier
    · rw [List.mem_singleton.1 last]
      exact ⟨delivery, answer⟩
  · rw [filled_append]
    by_cases empty : packet.payload = []
    · rw [filled_of_empty brings empty, List.append_nil]
      exact gathers.inPlace
    · rw [filled_of_bytes brings empty]
      exact History.forall_concat gathers.inPlace (place empty)

/-- What is in front of the end of a block is the front of the block. -/
theorem Gathers.front (gathers : Gathers (stretch ++ [entry])) (nonempty : stretch ≠ []) :
    Gathers stretch := by
  obtain ⟨first, rest, rfl⟩ := List.exists_cons_of_ne_nil nonempty
  constructor
  · obtain ⟨_, _, opening, same, brings, someByte⟩ := gathers.starts
    cases (List.cons.inj same).1
    exact ⟨first, rest, opening, rfl, brings, someByte⟩
  · intro other member
    exact gathers.unbroken other (List.mem_append_left _ member)
  · intro other member
    exact gathers.answered other (List.mem_append_left _ member)
  · intro front other back split
    apply gathers.inPlace front other (back ++ filled [entry])
    rw [filled_append, split, List.append_assoc, List.cons_append]

end Brings

/-- No log has two blocks open: the start of a later one would not stand at offset 0. -/
theorem Open.unique {log left right : List Entry} (openLeft : Open left) (openRight : Open right)
    (latestLeft : left <:+ log) (latestRight : right <:+ log) : left = right := by
  have inside {shorter longer : List Entry} (openShorter : Open shorter) (openLonger : Open longer)
      (suffix : shorter <:+ longer) : shorter = longer := by
    obtain ⟨front, rfl⟩ := suffix
    cases front with
    | nil => rfl
    | cons entry front =>
        obtain ⟨_, _, opening, same, brings, someByte⟩ := openLonger.1.starts
        cases (List.cons.inj same).1
        obtain ⟨first, rest, packet, rfl, bringsFirst, carries⟩ := openShorter.1.starts
        have parts : filled (first :: rest) = packet :: filled rest := by
          rw [← List.singleton_append, filled_append, filled_of_bytes bringsFirst carries]
          rfl
        have start : packet.header.offset.toNat = 0 :=
          openShorter.1.inPlace [] packet (filled rest) parts
        -- In the longer stretch the same packet stands behind the bytes of the first one.
        have behind := openLonger.1.inPlace (filled (entry :: front)) packet (filled rest) (by
          rw [filled_append, parts])
        rw [← List.singleton_append, filled_append, filled_of_bytes brings someByte,
          carried_append, carried_singleton, List.length_append, start] at behind
        have positive := List.length_pos_iff.2 someByte
        omega
  rcases List.suffix_or_suffix_of_suffix latestLeft latestRight with suffix | suffix
  · exact inside openLeft openRight suffix
  · exact (inside openRight openLeft suffix).symm

/-! ## What is at hand -/

/-- The bytes at hand behind a log: those of its open block, and nothing where it has none. -/
inductive AtHand (log : List Entry) : Bytes → Prop
  | nothing (closed : ∀ stretch, stretch <:+ log → ¬Open stretch) : AtHand log []
  | block {stretch : List Entry} (latest : stretch <:+ log) (opened : Open stretch) :
      AtHand log (carried (filled stretch))

section Step

variable {log : List Entry} {receiver : Receiver} {entry : Entry} {packet : Packet}

/-- No block is open behind an entry that cannot be part of one. -/
theorem closed_concat (alone : ¬Open [entry])
    (behind : ∀ stretch, stretch ≠ [] → stretch <:+ log → ¬Open (stretch ++ [entry])) :
    ∀ stretch, stretch <:+ log ++ [entry] → ¬Open stretch := by
  intro stretch latest opened
  rcases List.suffix_concat_iff.1 latest with rfl | ⟨front, rfl, earlier⟩
  · obtain ⟨_, _, _, empty, _⟩ := opened.1.starts
    cases empty
  · cases front with
    | nil => exact alone opened
    | cons first rest => exact behind (first :: rest) (List.cons_ne_nil _ _) earlier opened

/-- Nothing is open behind a call that brings no packet. -/
theorem closed_of_brings_nothing (brings : entry.call.packet? = none) :
    ∀ stretch, stretch <:+ log ++ [entry] → ¬Open stretch := by
  apply closed_concat
  · intro opened
    obtain ⟨_, _, packet, same, other, _⟩ := opened.1.starts
    cases same
    rw [brings] at other
    cases other
  · intro stretch nonempty _ opened
    obtain ⟨packet, other, _⟩ := opened.1.unbroken entry (by
      rw [List.tail_append_of_ne_nil nonempty]
      exact List.mem_append_right _ List.mem_cons_self)
    rw [brings] at other
    cases other

/-- Nothing is open behind a refused packet. -/
theorem closed_of_error {error : FrameError} (refused : entry.answer = .error error) :
    ∀ stretch, stretch <:+ log ++ [entry] → ¬Open stretch := by
  have notAnswered (stretch : List Entry) : ¬Open (stretch ++ [entry]) := by
    intro opened
    obtain ⟨delivery, answer⟩ := opened.1.answered entry (List.mem_append_right _ (by simp))
    rw [refused] at answer
    cases answer
  exact closed_concat (notAnswered []) fun stretch _ _ => notAnswered stretch

/-- Nothing is open behind the last packet of a block. -/
theorem closed_of_marker (brings : entry.call.packet? = some packet)
    (someByte : packet.payload ≠ []) (marker : packet.marker = true) :
    ∀ stretch, stretch <:+ log ++ [entry] → ¬Open stretch := by
  have ended (stretch : List Entry) : ¬Open (stretch ++ [entry]) := by
    intro opened
    have unmarked := opened.2 packet (by
      rw [filled_append, filled_of_bytes brings someByte]
      exact List.mem_append_right _ List.mem_cons_self)
    rw [marker] at unmarked
    cases unmarked
  exact closed_concat (ended []) fun stretch _ _ => ended stretch

/-- What a packet meets behind a log: the open block, unless there is none or a gap was seen. -/
inductive Meets (log : List Entry) (packet : Packet) : Bytes → Prop
  | nothing (closed : packet.discont = true ∨ ∀ stretch, stretch <:+ log → ¬Open stretch) :
      Meets log packet []
  | block {stretch : List Entry} (plain : packet.discont = false) (latest : stretch <:+ log)
      (opened : Open stretch) : Meets log packet (carried (filled stretch))

theorem AtHand.meets (atHand : AtHand log receiver.pending.toBytes) (packet : Packet) :
    Meets log packet (receiver.meets packet) := by
  cases gap : packet.discont with
  | true =>
      rw [meets_of_discont gap]
      exact .nothing (.inl gap)
  | false =>
      rw [meets_of_plain gap]
      generalize receiver.pending.toBytes = bytes at atHand
      cases atHand with
      | nothing closed => exact .nothing (.inr closed)
      | block latest opened => exact .block gap latest opened

/-- A packet without bytes keeps open what it meets, and opens nothing. -/
theorem Meets.empty {bytes : Bytes} (meets : Meets log packet bytes)
    (brings : entry.call.packet? = some packet) (empty : packet.payload = [])
    (answer : entry.answer = .ok none) : AtHand (log ++ [entry]) bytes := by
  have added (stretch : List Entry) : filled (stretch ++ [entry]) = filled stretch := by
    rw [filled_append, filled_of_empty brings empty, List.append_nil]
  cases meets with
  | nothing closed =>
      apply AtHand.nothing
      apply closed_concat
      · intro opened
        obtain ⟨_, _, other, same, bringsOther, someByte⟩ := opened.1.starts
        cases same
        rw [brings] at bringsOther
        cases bringsOther
        exact someByte empty
      · intro stretch nonempty latest opened
        rcases closed with gap | closed
        · obtain ⟨other, bringsOther, plain⟩ := opened.1.unbroken entry (by
            rw [List.tail_append_of_ne_nil nonempty]
            exact List.mem_append_right _ List.mem_cons_self)
          rw [brings] at bringsOther
          cases bringsOther
          rw [gap] at plain
          cases plain
        · exact closed stretch latest ⟨opened.1.front nonempty, added stretch ▸ opened.2⟩
  | @block stretch plain latest opened =>
      rw [← added stretch]
      refine .block (List.suffix_concat_iff.2 (.inr ⟨stretch, rfl, latest⟩)) ⟨?_, ?_⟩
      · exact opened.1.concat brings plain answer fun someByte => absurd empty someByte
      · rw [added]
        exact opened.2

variable (entry) in
/-- A packet that stands where the bytes that it meets end makes their block longer. -/
theorem Meets.extend {bytes : Bytes} (meets : Meets log packet bytes)
    (brings : entry.call.packet? = some packet) (someByte : packet.payload ≠ [])
    {delivery : Option Delivery} (answer : entry.answer = .ok delivery)
    (place : packet.header.offset.toNat = bytes.length) :
    ∃ stretch block, stretch <:+ log ++ [entry] ∧ Gathers stretch ∧
      filled stretch = block ++ [packet] ∧ (∀ other ∈ block, other.marker = false) ∧
      carried block = bytes := by
  cases meets with
  | nothing closed =>
      refine ⟨[entry], [], List.suffix_append _ _, ?_, ?_, List.forall_mem_nil _, rfl⟩
      · exact gathers_singleton brings someByte answer place
      · exact filled_of_bytes brings someByte
  | @block stretch plain latest opened =>
      refine ⟨stretch ++ [entry], filled stretch, ?_, ?_, ?_, opened.2, rfl⟩
      · exact List.suffix_concat_iff.2 (.inr ⟨stretch, rfl, latest⟩)
      · exact opened.1.concat brings plain answer fun _ => place
      · rw [filled_append, filled_of_bytes brings someByte]

/-- Whatever the next call is, the bytes at hand stay those of the open block. -/
theorem AtHand.call (atHand : AtHand log receiver.pending.toBytes) (call : Call) :
    AtHand (log ++ [⟨call, (receiver.call call).1⟩])
      (receiver.call call).2.pending.toBytes := by
  cases brings : call.packet? with
  | none =>
      rw [pending_of_brings_nothing brings]
      exact .nothing (closed_of_brings_nothing brings)
  | some packet =>
      have meets := atHand.meets packet
      have outcome := receiver.outcome_accept packet
      rw [call_of_brings brings]
      generalize receiver.accept packet = after at outcome ⊢
      -- A refused packet and the last one of a frame close the block, any other one keeps it open.
      cases outcome with
      | hollow empty =>
          rw [toBytes_holding]
          exact meets.empty brings empty rfl
      | astray | oversized =>
          rw [toBytes_holding]
          exact .nothing (closed_of_error rfl)
      | whole completes =>
          rw [(complete_keeps _ _ _ _).2]
          exact .nothing (closed_of_marker brings completes.someByte completes.marker)
      | inner someByte place unmarked =>
          rw [toBytes_holding]
          obtain ⟨stretch, block, latest, gathers, parts, inner, bytes⟩ :=
            meets.extend ⟨call, .ok none⟩ brings someByte rfl place
          have whole : carried (filled stretch) = receiver.meets packet ++ packet.payload := by
            rw [parts, carried_append, carried_singleton, bytes]
          rw [← whole]
          apply AtHand.block latest
          constructor
          · exact gathers
          · rw [parts]
            intro other member
            rcases List.mem_append.1 member with earlier | last
            · exact inner other earlier
            · rw [List.mem_singleton.1 last]
              exact unmarked

/-- A delivery is what the block at the end of the log reads as. -/
theorem AtHand.delivery (atHand : AtHand log receiver.pending.toBytes) {call : Call}
    {delivery : Delivery} (delivered : (receiver.call call).1 = .ok (some delivery)) :
    ∃ stretch block last, stretch <:+ log ++ [⟨call, .ok (some delivery)⟩] ∧
      Gathers stretch ∧ filled stretch = block ++ [last] ∧ call.packet? = some last ∧
      (∀ packet ∈ block, packet.marker = false) ∧ last.marker = true ∧
      (carried (block ++ [last])).length ≤ receiver.config.maxFrameSize ∧
      receiver.call call =
        complete receiver.discard last.header last.timestamp (carried (block ++ [last])) := by
  cases brings : call.packet? with
  | none => exact absurd delivered ((call_of_brings_nothing brings).2 delivery)
  | some packet =>
      have outcome := receiver.outcome_accept packet
      rw [call_of_brings brings] at delivered ⊢
      generalize receiver.accept packet = after at outcome delivered ⊢
      cases outcome with
      | hollow | astray | oversized | inner => cases delivered
      | @whole read completes =>
          obtain ⟨stretch, block, latest, gathers, parts, inner, bytes⟩ :=
            (atHand.meets packet).extend ⟨call, .ok (some delivery)⟩ brings completes.someByte rfl
              completes.place
          have whole : carried (block ++ [packet]) = read := by
            rw [carried_append, carried_singleton, bytes, ← completes.whole]
          refine ⟨stretch, block, packet, latest, gathers, parts, rfl, inner, completes.marker, ?_,
            ?_⟩
          · rw [whole]
            exact completes.fits
          · rw [whole]

end Step

/-! ## Runs -/

/-- Behind any calls of a fresh receiver, the bytes at hand are those of the open block. -/
theorem atHand_callAll (config : ReceiverConfig) (calls : List Call) :
    AtHand ((create config).callAll calls).1
      ((create config).callAll calls).2.pending.toBytes := by
  induction calls using List.reverseRecOn with
  | nil =>
      apply AtHand.nothing
      intro stretch latest opened
      obtain ⟨entry, rest, _, same, _⟩ := opened.1.starts
      rw [List.suffix_nil.1 latest] at same
      cases same
  | append_singleton calls call ih =>
      rw [callAll_concat]
      exact ih.call call

/-- Reassembly is sound whatever a receiver is called with. Every delivery is what one block of
packets reads as, under the header and the timestamp of the last of them: the block starts at
offset 0, goes on without a gap, a refusal or another call in between, has the marker at its end
alone, and is no longer than the setup allows. And at any time as many bytes are at hand as the
open block has. -/
theorem read_of_delivered (config : ReceiverConfig) (calls : List Call) :
    let run := (create config).callAll calls
    (∀ call delivery, (run.2.call call).1 = .ok (some delivery) →
      ∃ stretch block last, stretch <:+ run.1 ++ [⟨call, .ok (some delivery)⟩] ∧
        Gathers stretch ∧ filled stretch = block ++ [last] ∧ call.packet? = some last ∧
        (∀ packet ∈ block, packet.marker = false) ∧ last.marker = true ∧
        (carried (block ++ [last])).length ≤ config.maxFrameSize ∧
        run.2.call call =
          complete run.2.discard last.header last.timestamp (carried (block ++ [last]))) ∧
    (∀ stretch, stretch <:+ run.1 → Open stretch →
      run.2.pending.size = (carried (filled stretch)).length) ∧
    ((∀ stretch, stretch <:+ run.1 → ¬Open stretch) → run.2.pending.size = 0) := by
  intro run
  have atHand : AtHand run.1 run.2.pending.toBytes := atHand_callAll config calls
  refine ⟨?_, ?_, ?_⟩
  · intro call delivery delivered
    have bound : run.2.config = config := config_callAll (create config) calls
    rw [← bound]
    exact atHand.delivery delivered
  · intro stretch latest opened
    rw [← Gathered.length_toBytes]
    generalize run.2.pending.toBytes = bytes at atHand
    cases atHand with
    | nothing closed => exact absurd opened (closed stretch latest)
    | block other openedOther => rw [openedOther.unique opened other latest]
  · intro closed
    rw [← Gathered.length_toBytes]
    generalize run.2.pending.toBytes = bytes at atHand
    cases atHand with
    | nothing => rfl
    | block latest opened => exact absurd opened (closed _ latest)

/-- A packet without bytes goes by while a frame of two packets is under way. -/
theorem read_of_delivered_over_empty :
    let header : PacketHeader := ⟨false, .outOfBand, .none, 0, 0⟩
    let first : Packet := ⟨header, false, false, 0, [1]⟩
    let hollow : Packet := ⟨header, true, false, 5, []⟩
    let last : Packet := ⟨{ header with offset := 1 }, true, false, 7, [2]⟩
    let received : ReceivedFrame := ⟨[1, 2], .none, .outOfBand, ⟨"setup"⟩, false, 7⟩
    let config : ReceiverConfig := ⟨some ⟨"setup"⟩, 2⟩
    let run := (create config).callAll [.gap, .packet first, .packet hollow]
    (run.2.call (.packet last)).1 = .ok (some (.frame received)) ∧
      (∃ stretch block ending,
        stretch <:+ run.1 ++ [⟨.packet last, .ok (some (.frame received))⟩] ∧
          Gathers stretch ∧ filled stretch = block ++ [ending] ∧
          run.2.call (.packet last) =
            complete run.2.discard ending.header ending.timestamp (carried (block ++ [ending]))) ∧
      run.2.pending.size = 1 ∧ ((create config).callAll [.gap]).2.pending.size = 0 := by
  intro header first hollow last received config run
  have delivered : (run.2.call (.packet last)).1 = .ok (some (.frame received)) := by
    decide +kernel
  obtain ⟨sound, atHand, _⟩ :=
    read_of_delivered config [.gap, .packet first, .packet hollow]
  refine ⟨delivered, ?_, ?_, ?_⟩
  · obtain ⟨stretch, block, ending, latest, gathers, parts, _, _, _, _, read⟩ :=
      sound (.packet last) (.frame received) delivered
    exact ⟨stretch, block, ending, latest, gathers, parts, read⟩
  · have opening : Gathers [⟨.packet first, .ok none⟩] :=
      gathers_singleton rfl (List.cons_ne_nil 1 []) rfl rfl
    apply atHand [⟨.packet first, .ok none⟩, ⟨.packet hollow, .ok none⟩] ⟨[⟨.gap, .ok none⟩], rfl⟩
    constructor
    · have brings : (Call.packet hollow).packet? = some hollow := rfl
      exact opening.concat brings rfl rfl (absurd rfl)
    · intro packet member
      rw [List.mem_singleton.1 member]
  · apply (read_of_delivered config [.gap]).2.2
    exact @closed_of_brings_nothing [] ⟨.gap, .ok none⟩ rfl

end FrameLink.Receiver

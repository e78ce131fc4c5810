import FrameLink.Proofs.Sender.Announced
import FrameLink.Proofs.Sender.Fragments
import FrameLink.Sender.Push

/-!
# Sending a frame again

A push that fails leaves the packets in front of it with whatever takes them, and a sender that has
done nothing but take over the format of its frame (`Sender.send_of_tears`). To take the same format
over again is to do nothing, so a frame may be sent again after any failures, and goes out as it
would have gone out at once (`Sender.send_retried`).
-/

namespace FrameLink

open FrameLink.Transport (TransportError)

/-! ## Pushes that succeed and pushes that fail -/

section Pushes

variable {σ : Type} {push : Push σ} {state between last : σ} {front packets : List Packet}

/-- All of these packets are taken, in order. -/
inductive Takes (push : Push σ) : σ → List Packet → σ → Prop
  | nothing {state : σ} : Takes push state [] state
  | packet {state between last : σ} {packet : Packet} {rest : List Packet}
      (taken : push packet state = (.ok (), between)) (others : Takes push between rest last) :
      Takes push state (packet :: rest) last

/-- So many packets are taken, and the next one is refused. -/
def Tears (push : Push σ) (state : σ) (packets : List Packet) (count : Nat)
    (failure : TransportError) (last : σ) : Prop :=
  ∃ between packet, Takes push state (packets.take count) between ∧
    packets[count]? = some packet ∧ push packet between = (.error failure, last)

/-- A way to hand packets over that keeps those which are taken. -/
def keeping (push : Push σ) : Push (List Packet × σ) :=
  fun packet state =>
    match push packet state.2 with
    | (.ok (), after) => (.ok (), state.1 ++ [packet], after)
    | (.error failure, after) => (.error failure, state.1, after)

theorem Takes.keeping (takes : Takes push state packets last) (kept : List Packet) :
    Takes (keeping push) (kept, state) packets (kept ++ packets, last) := by
  induction takes generalizing kept with
  | nothing =>
      rw [List.append_nil]
      exact .nothing
  | @packet state between last packet rest taken others ih =>
      have step : FrameLink.keeping push packet (kept, state) =
          (.ok (), kept ++ [packet], between) := by
        simp only [FrameLink.keeping, taken]
      have rest := ih (kept ++ [packet])
      rw [List.append_assoc] at rest
      exact .packet step rest

theorem Tears.keeping {count : Nat} {failure : TransportError}
    (tears : Tears push state packets count failure last) :
    Tears (keeping push) ([], state) packets count failure (packets.take count, last) := by
  obtain ⟨between, packet, takes, there, refused⟩ := tears
  refine ⟨(packets.take count, between), packet, takes.keeping [], there, ?_⟩
  simp only [FrameLink.keeping, refused]

/-- Pushing goes on behind the packets that are taken. -/
theorem Takes.pushAll_append (takes : Takes push state front between) (back : List Packet) :
    pushAll push (front ++ back) state =
      (⟨(pushAll push back between).1.sent + front.length,
          (pushAll push back between).1.failure⟩,
        (pushAll push back between).2) := by
  induction takes with
  | nothing => rfl
  | packet taken others ih =>
      rw [List.cons_append, pushAll, taken]
      simp only [ih, List.length_cons, Nat.add_assoc]

theorem Takes.pushAll (takes : Takes push state packets last) :
    pushAll push packets state = (⟨packets.length, none⟩, last) := by
  have all := takes.pushAll_append []
  rw [List.append_nil] at all
  rw [all]
  simp only [FrameLink.pushAll, Nat.zero_add]

theorem Tears.pushAll {count : Nat} {failure : TransportError}
    (tears : Tears push state packets count failure last) :
    pushAll push packets state = (⟨count, some failure⟩, last) := by
  obtain ⟨between, packet, takes, there, refused⟩ := tears
  obtain ⟨inside, there⟩ := List.getElem?_eq_some_iff.1 there
  have split : packets = packets.take count ++ packet :: packets.drop (count + 1) := by
    rw [← there, ← List.drop_eq_getElem_cons inside, List.take_append_drop]
  have front : (packets.take count).length = count :=
    List.length_take_of_le (Nat.le_of_lt inside)
  rw [split, takes.pushAll_append, FrameLink.pushAll, refused, front]
  simp only [Nat.zero_add]

end Pushes

namespace Sender

/-! ## Taking packets down -/

section Recording

variable {wanted : Nat} {failure : TransportError}

theorem takes_recording (front : List Packet) (taken : Array Packet)
    (fits : taken.size + front.length ≤ wanted) :
    Takes (recording wanted failure) taken front (taken ++ front.toArray) := by
  induction front generalizing taken with
  | nil =>
      rw [Array.append_empty]
      exact .nothing
  | cons packet rest ih =>
      rw [List.length_cons] at fits
      have step : recording wanted failure packet taken = (.ok (), taken.push packet) := by
        rw [recording, if_neg (by omega)]
      have others := ih (taken.push packet) (by rw [Array.size_push]; omega)
      have same : taken.push packet ++ rest.toArray = taken ++ (packet :: rest).toArray := by simp
      rw [same] at others
      exact .packet step others

/-- Taking so many packets down and no more tears a frame that has more of them. -/
theorem tears_recording {packets : List Packet} (inside : wanted < packets.length) :
    Tears (recording wanted failure) #[] packets wanted failure (packets.take wanted).toArray := by
  have front : (packets.take wanted).length = wanted := List.length_take_of_le (Nat.le_of_lt inside)
  have fits : (#[] : Array Packet).size + (packets.take wanted).length ≤ wanted := by
    rw [front]
    exact Nat.le_of_eq (Nat.zero_add _)
  have takes : Takes (recording wanted failure) #[] (packets.take wanted) _ :=
    takes_recording (packets.take wanted) #[] fits
  rw [Array.empty_append] at takes
  refine ⟨_, packets[wanted], takes, List.getElem?_eq_getElem inside, ?_⟩
  rw [recording, List.size_toArray, front, if_pos rfl]

end Recording

/-! ## Taking a format over again -/

/-- A format that was named last is no change. -/
theorem announce_announce (sender : Sender) (descriptor : FormatDescriptor) :
    (sender.announce descriptor).announce descriptor = sender.announce descriptor := by
  rw [announce, if_pos (announced_announce sender descriptor)]

theorem adopt_adopt (sender : Sender) (frame : Frame) :
    (sender.adopt frame).adopt frame = sender.adopt frame := by
  unfold adopt
  cases frame.descriptor with
  | none => rfl
  | some descriptor => exact announce_announce sender descriptor

theorem encode_adopt (sender : Sender) (frame : Frame) :
    (sender.adopt frame).encode frame = sender.encode frame := by
  rw [encode, encode, adopt_adopt]

theorem send_adopt {σ : Type} (push : Push σ) (sender : Sender) (frame : Frame) (state : σ) :
    (sender.adopt frame).send push frame state = sender.send push frame state := by
  rw [send, send, adopt_adopt]

/-! ## Sending -/

variable {σ : Type} {push : Push σ} {sender after : Sender} {frame : Frame} {state last : σ}
variable {packets : List Packet}

/-- The packets that a frame is encoded as are those that sending it hands over. -/
theorem packets_of_encode (encoded : sender.encode frame = (.ok packets, after)) :
    (sender.adopt frame).packets frame = .ok packets ∧ after = (sender.adopt frame).settled := by
  simp only [encode] at encoded
  cases made : (sender.adopt frame).packets frame with
  | error error =>
      rw [made] at encoded
      cases encoded
  | ok others =>
      rw [made] at encoded
      cases encoded
      exact ⟨rfl, rfl⟩

theorem send_of_takes (encoded : sender.encode frame = (.ok packets, after))
    (takes : Takes push state packets last) :
    sender.send push frame state = (.ok packets.length, after, last) := by
  obtain ⟨made, rfl⟩ := packets_of_encode encoded
  simp only [send, made, takes.pushAll]

theorem send_of_tears {count : Nat} {failure : TransportError}
    (encoded : sender.encode frame = (.ok packets, after))
    (tears : Tears push state packets count failure last) :
    sender.send push frame state =
      (.error (.pushFailed count failure), sender.adopt frame, last) := by
  obtain ⟨made, rfl⟩ := packets_of_encode encoded
  simp only [send, made, tears.pushAll]

/-- Whatever goes wrong with a frame, its format has been taken over, and nothing else has
changed. -/
theorem sender_of_error {error : FrameError}
    (refused : (sender.send push frame state).1 = .error error) :
    (sender.send push frame state).2.1 = sender.adopt frame := by
  unfold send at *
  cases made : (sender.adopt frame).packets frame with
  | error error => simp only [made]
  | ok packets =>
      simp only [made] at *
      rcases pushed : pushAll push packets state with ⟨⟨sent, failure⟩, after⟩
      cases failure with
      | none =>
          simp only [pushed] at refused
          cases refused
      | some failure => rfl

/-- The sender after any number of pushes of a frame that failed, over whatever took the packets. -/
inductive Retried (frame : Frame) (sender : Sender) : Sender → Prop
  | untried : Retried frame sender sender
  | torn {σ : Type} {before : Sender} {sent : Nat} {failure : TransportError} (push : Push σ)
      (state : σ) (earlier : Retried frame sender before)
      (failed : (before.send push frame state).1 = .error (.pushFailed sent failure)) :
      Retried frame sender (before.send push frame state).2.1

theorem Retried.eq_or_eq_adopt {retried : Sender} (tried : Retried frame sender retried) :
    retried = sender ∨ retried = sender.adopt frame := by
  induction tried with
  | untried => exact .inl rfl
  | torn push state earlier failed ih =>
      rw [sender_of_error failed]
      rcases ih with rfl | rfl
      · exact .inr rfl
      · exact .inr (adopt_adopt sender frame)

/-- A frame whose push fails leaves the packets in front with whatever takes them, and a sender that
has taken over the format of the frame and done nothing else. After any number of such failures,
wherever they hit, encoding the frame and sending it come to what they would have come to at
once. -/
theorem send_retried (sender : Sender) (frame : Frame) :
    (∀ packets after, sender.encode frame = (.ok packets, after) →
      ∀ (σ : Type) (push : Push σ) (state last : σ),
        (∀ count failure, Tears push state packets count failure last →
          sender.send push frame state =
              (.error (.pushFailed count failure), frame.descriptor.elim sender sender.announce,
                last) ∧
            (sender.send (keeping push) frame ([], state)).2.2 = (packets.take count, last)) ∧
        (Takes push state packets last →
          sender.send push frame state = (.ok packets.length, after, last) ∧
            (sender.send (keeping push) frame ([], state)).2.2 = (packets, last))) ∧
      ∀ retried, Retried frame sender retried →
        retried.encode frame = sender.encode frame ∧
          ∀ (σ : Type) (push : Push σ) (state : σ),
            retried.send push frame state = sender.send push frame state := by
  constructor
  · intro packets after encoded σ push state last
    have adopted : sender.adopt frame = frame.descriptor.elim sender sender.announce := by
      unfold adopt
      cases frame.descriptor with
      | none => rfl
      | some descriptor => rfl
    constructor
    · intro count failure tears
      rw [send_of_tears encoded tears, send_of_tears encoded tears.keeping, adopted]
      exact ⟨rfl, rfl⟩
    · intro takes
      rw [send_of_takes encoded takes, send_of_takes encoded (takes.keeping [])]
      exact ⟨rfl, rfl⟩
  · intro retried tried
    rcases tried.eq_or_eq_adopt with rfl | rfl
    · exact ⟨rfl, fun _ _ _ => rfl⟩
    · constructor
      · exact encode_adopt sender frame
      · intro σ push state
        exact send_adopt push sender frame state

/-- The second of five packets is refused, then the fourth; the third attempt goes out whole. -/
theorem send_retried_twice :
    let frame : Frame := { Frame.blank with payload := [1, 2], descriptor := some ⟨"v"⟩ }
    ∃ sender, create ⟨9, none⟩ = .ok sender ∧
      let named := sender.announce ⟨"v"⟩
      ∃ packets after, sender.encode frame = (.ok packets, after) ∧ packets.length = 5 ∧
        sender.send (recording 1 .closed) frame #[] =
          (.error (.pushFailed 1 .closed), named, (packets.take 1).toArray) ∧
        named.send (recording 3 .closed) frame #[] =
          (.error (.pushFailed 3 .closed), named, (packets.take 3).toArray) ∧
        named.send (recording 5 .closed) frame #[] = (.ok 5, after, packets.toArray) := by
  intro frame
  have roomy : PacketHeader.size < (SenderConfig.mk 9 none).mtu := by decide
  obtain ⟨sender, created, mtu, _⟩ := create_of_roomy roomy
  have bytes : (sender.adopt frame).serialize frame = [2, 118, 0, 1, 2] := by
    cases created
    decide +kernel
  have short : ((sender.adopt frame).serialize frame).length ≤ greatestFrame := by
    rw [bytes]
    decide
  have count : ((sender.adopt frame).fragments frame).length = 5 := by
    rw [length_fragments, pieces, bytes, room, mtu_adopt, mtu]
    decide +kernel
  have encoded := encode_of_short short
  obtain ⟨comesTo, again⟩ := send_retried sender frame
  have first := ((comesTo _ _ encoded _ _ _ _).1 1 .closed (tears_recording (by omega))).1
  have second := ((comesTo _ _ encoded _ _ _ _).1 3 .closed (tears_recording (by omega))).1
  have third := ((comesTo _ _ encoded _ (recording 5 .closed) _ _).2
    (takes_recording _ #[] (by simp [count]))).1
  have tried := Retried.torn _ _ .untried (congrArg Prod.fst first)
  rw [first] at tried
  obtain ⟨_, sends⟩ := again _ tried
  rw [count, Array.empty_append] at third
  refine ⟨sender, created, _, _, encoded, count, first, ?_, ?_⟩
  · exact (sends _ _ _).trans second
  · exact (sends _ _ _).trans third

end Sender

end FrameLink

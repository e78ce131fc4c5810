import FrameLink.Proofs.Receiver.Holding

/-!
# What a packet can come to

Every way in which a packet can go into a receiver, told once: where it stands to the bytes at hand
(`Outcome`), whether the frame that it ends has an announcement (`complete_cases`), and what is
behind that (`Delivers`). Later proofs split into these cases and open none of the definitions.
-/

namespace FrameLink.Receiver

/-! ## Behind the announcement -/

section Deliver

variable {receiver : Receiver} {header : PacketHeader} {timestamp : UInt32} {replaced : Bool}
variable {bytes : Bytes} {outcome : Answer × Receiver}

variable (receiver header timestamp replaced bytes) in
/-- What stands behind the announcement of a frame names an event or none, and comes to one of these
answers. -/
inductive Delivers : Answer × Receiver → Prop
  | unknownKind {error : FrameError} (named : header.eventKind = .error error) :
      Delivers (.error error, receiver)
  | unreadable {kind : EventKind} {error : FrameError} (named : header.eventKind = .ok (some kind))
      (taken : takeEvent kind bytes = .error error) : Delivers (.error error, receiver)
  | event {kind : EventKind} {event : Event} (named : header.eventKind = .ok (some kind))
      (taken : takeEvent kind bytes = .ok event) :
      Delivers (.ok (some (.event event)), receiver)
  | nothing (noEvent : header.eventKind = .ok none) (empty : bytes = []) :
      Delivers (.ok none, receiver)
  | missing (noEvent : header.eventKind = .ok none) (someByte : bytes ≠ [])
      (unknown : receiver.cache.lookup header.version = none) :
      Delivers (.error (.missingFormatVersion header.version.val), receiver)
  | frame {descriptor : FormatDescriptor} (noEvent : header.eventKind = .ok none)
      (someByte : bytes ≠ []) (known : receiver.cache.lookup header.version = some descriptor) :
      Delivers
        (.ok (some (.frame {
            payload := bytes
            flags := header.flags
            version := header.version
            descriptor
            formatChanged := (receiver.active != some header.version) || replaced
            timestamp })),
          { receiver with active := some header.version })

variable (receiver header timestamp replaced bytes) in
theorem delivers_deliver :
    Delivers receiver header timestamp replaced bytes
      (deliver receiver header timestamp replaced bytes) := by
  unfold deliver
  split
  next error named => exact .unknownKind named
  next kind named =>
    cases taken : takeEvent kind bytes with
    | error error => exact .unreadable named taken
    | ok event => exact .event named taken
  next noEvent =>
    split
    next empty => exact .nothing noEvent (List.isEmpty_iff.1 empty)
    next someByte =>
      rw [List.isEmpty_iff] at someByte
      split
      next unknown => exact .missing noEvent someByte unknown
      next descriptor known => exact .frame noEvent someByte known

/-- Nothing but the version in force can change with what stands behind an announcement. -/
theorem Delivers.keeps (delivers : Delivers receiver header timestamp replaced bytes outcome) :
    outcome.2.config = receiver.config ∧ outcome.2.pending = receiver.pending ∧
      outcome.2.cache = receiver.cache := by
  cases delivers with
  | unknownKind | unreadable | event | nothing | missing | frame => exact ⟨rfl, rfl, rfl⟩

end Deliver

/-! ## A whole frame -/

/-- The receiver once it heard an announcement. -/
def hear (receiver : Receiver) (version : FormatVersion) (descriptor : FormatDescriptor) :
    Receiver :=
  { receiver with cache := receiver.cache.store version descriptor }

/-- A frame is read with its announcement, or without one, unless the announcement cannot be
read. -/
theorem complete_cases (receiver : Receiver) (header : PacketHeader) (timestamp : UInt32)
    (bytes : Bytes) :
    (header.capsInline = false ∧
        complete receiver header timestamp bytes =
          deliver receiver header timestamp false bytes) ∨
      (∃ fault, takeDescriptor bytes = .error fault ∧
        complete receiver header timestamp bytes =
          (.error (.malformedDescriptor fault), receiver)) ∨
      ∃ descriptor rest, header.capsInline = true ∧
        takeDescriptor bytes = .ok (descriptor, rest) ∧
        complete receiver header timestamp bytes =
          deliver (receiver.hear header.version descriptor) header timestamp
            (replaces (receiver.cache.lookup header.version) descriptor) rest := by
  cases inline : header.capsInline with
  | false =>
      refine .inl ⟨rfl, ?_⟩
      rw [complete, inline, if_neg Bool.false_ne_true]
  | true =>
      rw [complete, inline, if_pos rfl]
      cases taken : takeDescriptor bytes with
      | error fault => exact .inr (.inl ⟨fault, rfl, rfl⟩)
      | ok announcement => exact .inr (.inr ⟨announcement.1, announcement.2, rfl, rfl, rfl⟩)

/-- Reading a frame touches neither the setup nor the bytes at hand. -/
theorem complete_keeps (receiver : Receiver) (header : PacketHeader) (timestamp : UInt32)
    (bytes : Bytes) :
    (complete receiver header timestamp bytes).2.config = receiver.config ∧
      (complete receiver header timestamp bytes).2.pending = receiver.pending := by
  rcases complete_cases receiver header timestamp bytes with
    ⟨_, same⟩ | ⟨_, _, same⟩ | ⟨_, _, _, _, same⟩
  · obtain ⟨config, pending, _⟩ := (delivers_deliver receiver header timestamp false bytes).keeps
    rw [same]
    exact ⟨config, pending⟩
  · rw [same]
    exact ⟨rfl, rfl⟩
  · obtain ⟨config, pending, _⟩ := (delivers_deliver _ header timestamp _ _).keeps
    rw [same]
    exact ⟨config, pending⟩

/-! ## What a packet meets -/

/-- The bytes that a packet meets: those at hand, unless a gap was seen in front of the packet. -/
def meets (receiver : Receiver) (packet : Packet) : Bytes :=
  if packet.discont then [] else receiver.pending.toBytes

theorem meets_of_discont {receiver : Receiver} {packet : Packet} (gap : packet.discont = true) :
    receiver.meets packet = [] :=
  if_pos gap

theorem meets_of_plain {receiver : Receiver} {packet : Packet} (plain : packet.discont = false) :
    receiver.meets packet = receiver.pending.toBytes := by
  rw [meets, plain, if_neg Bool.false_ne_true]

/-- A packet is gathered onto the bytes that it meets. -/
theorem accept_meeting (receiver : Receiver) (packet : Packet) :
    receiver.accept packet = (receiver.holding (receiver.meets packet)).gather packet := by
  rw [accept, meets]
  cases packet.discont with
  | false => rw [if_neg Bool.false_ne_true, if_neg Bool.false_ne_true, holding_pending]
  | true => rw [if_pos rfl, if_pos rfl, holding_nil]

/-- A packet without bytes leaves what it meets. -/
theorem accept_of_empty (receiver : Receiver) {packet : Packet} (empty : packet.payload = []) :
    receiver.accept packet = (.ok none, receiver.holding (receiver.meets packet)) := by
  rw [accept_meeting, gather, empty]
  rfl

/-! ## What it comes to -/

/-- A packet that completes a frame of these bytes. -/
structure Completes (receiver : Receiver) (packet : Packet) (bytes : Bytes) : Prop where
  someByte : packet.payload ≠ []
  place : packet.header.offset.toNat = (receiver.meets packet).length
  marker : packet.marker = true
  whole : bytes = receiver.meets packet ++ packet.payload
  fits : bytes.length ≤ receiver.config.maxFrameSize

/-- A packet carries nothing, goes astray, outgrows the bound, goes on with a frame, or completes
one. -/
inductive Outcome (receiver : Receiver) (packet : Packet) : Answer × Receiver → Prop
  | hollow (empty : packet.payload = []) :
      Outcome receiver packet (.ok none, receiver.holding (receiver.meets packet))
  | astray (someByte : packet.payload ≠ [])
      (elsewhere : packet.header.offset.toNat ≠ (receiver.meets packet).length) :
      Outcome receiver packet
        (.error (.fragmentMismatch (min (receiver.meets packet).length greatestOffset)
          packet.header.offset.toNat), receiver.holding [])
  | oversized (someByte : packet.payload ≠ [])
      (place : packet.header.offset.toNat = (receiver.meets packet).length)
      (long : receiver.config.maxFrameSize <
        (receiver.meets packet ++ packet.payload).length) :
      Outcome receiver packet
        (.error (.frameTooLarge (receiver.meets packet ++ packet.payload).length
          receiver.config.maxFrameSize), receiver.holding [])
  | inner (someByte : packet.payload ≠ [])
      (place : packet.header.offset.toNat = (receiver.meets packet).length)
      (unmarked : packet.marker = false)
      (fits : (receiver.meets packet ++ packet.payload).length ≤ receiver.config.maxFrameSize) :
      Outcome receiver packet
        (.ok none, receiver.holding (receiver.meets packet ++ packet.payload))
  | whole {bytes : Bytes} (completes : receiver.Completes packet bytes) :
      Outcome receiver packet (complete receiver.discard packet.header packet.timestamp bytes)

theorem outcome_accept (receiver : Receiver) (packet : Packet) :
    Outcome receiver packet (receiver.accept packet) := by
  by_cases empty : packet.payload = []
  · rw [accept_of_empty receiver empty]
    exact .hollow empty
  · rw [accept_meeting, gather_holding _ _ _ empty]
    split
    next elsewhere => exact .astray empty elsewhere
    next there =>
      have place := Decidable.not_not.1 there
      split
      next long => exact .oversized empty place long
      next short =>
        have fits := Nat.not_lt.1 short
        split
        next marker =>
          rw [holding_nil]
          exact .whole ⟨empty, place, marker, rfl, fits⟩
        next unmarked => exact .inner empty place (Bool.of_not_eq_true unmarked) fits

/-- A packet that completes a frame makes the receiver read it. -/
theorem Completes.accept {receiver : Receiver} {packet : Packet} {bytes : Bytes}
    (completes : receiver.Completes packet bytes) :
    receiver.accept packet =
      complete receiver.discard packet.header packet.timestamp bytes := by
  obtain ⟨someByte, place, marker, rfl, fits⟩ := completes
  rw [accept_meeting, gather_holding _ _ _ someByte, if_neg (not_not_intro place),
    if_neg (Nat.not_lt.2 fits), if_pos marker, holding_nil]

end FrameLink.Receiver

import FrameLink.Receiver.Basic

/-!
# A receiver and the bytes it holds

All that a packet can meet in a receiver besides its formats are the bytes at hand. Naming them
(`holding`) turns the four ways in which a packet can go into one equation (`gather_holding`), and
later proofs go by that equation alone.
-/

namespace FrameLink

/-- Gathered bytes are told by what they read as. -/
theorem Gathered.eq_append_empty (gathered : Gathered) :
    gathered = Gathered.empty.append gathered.toBytes := by
  apply Gathered.toBytes_inj.1
  simp

namespace Receiver

/-- The receiver with these bytes of a frame at hand. -/
def holding (receiver : Receiver) (bytes : Bytes) : Receiver :=
  { receiver with pending := Gathered.empty.append bytes }

@[simp] theorem config_holding (receiver : Receiver) (bytes : Bytes) :
    (receiver.holding bytes).config = receiver.config := rfl

@[simp] theorem toBytes_holding (receiver : Receiver) (bytes : Bytes) :
    (receiver.holding bytes).pending.toBytes = bytes := by
  simp [holding]

/-- A receiver without bytes at hand has dropped them. -/
theorem holding_nil (receiver : Receiver) : receiver.holding [] = receiver.discard := by
  have nothing : Gathered.empty.append [] = Gathered.empty := Gathered.toBytes_inj.1 (by simp)
  rw [holding, nothing, discard]

@[simp] theorem discard_holding (receiver : Receiver) (bytes : Bytes) :
    (receiver.holding bytes).discard = receiver.holding [] := by
  rw [holding_nil]
  rfl

/-- Every receiver holds the bytes that it has at hand. -/
theorem holding_pending (receiver : Receiver) :
    receiver.holding receiver.pending.toBytes = receiver := by
  rw [holding, ← Gathered.eq_append_empty]

@[simp] theorem size_holding (receiver : Receiver) (bytes : Bytes) :
    (receiver.holding bytes).pending.size = bytes.length := by
  rw [← Gathered.length_toBytes, toBytes_holding]

/-- What a packet that carries bytes does: it goes astray, outgrows the bound, ends a frame, or is
put behind the bytes at hand. -/
theorem gather_holding (receiver : Receiver) (front : Bytes) (packet : Packet)
    (someByte : packet.payload ≠ []) :
    (receiver.holding front).gather packet =
      if packet.header.offset.toNat ≠ front.length then
        (.error (.fragmentMismatch (min front.length greatestOffset) packet.header.offset.toNat),
          receiver.holding [])
      else if receiver.config.maxFrameSize < (front ++ packet.payload).length then
        (.error (.frameTooLarge (front ++ packet.payload).length receiver.config.maxFrameSize),
          receiver.holding [])
      else if packet.marker then
        complete (receiver.holding []) packet.header packet.timestamp (front ++ packet.payload)
      else (.ok none, receiver.holding (front ++ packet.payload)) := by
  have block : (receiver.holding front).pending.append packet.payload =
      Gathered.empty.append (front ++ packet.payload) := by
    apply Gathered.toBytes_inj.1
    simp
  have size : (Gathered.empty.append (front ++ packet.payload)).size =
      (front ++ packet.payload).length := by
    rw [← Gathered.length_toBytes, Gathered.toBytes_append, Gathered.toBytes_empty,
      List.nil_append]
  have nonempty : packet.payload.isEmpty = false := by simpa using someByte
  simp only [gather, nonempty, size_holding, block, size, config_holding, discard_holding,
    Gathered.toBytes_append, Gathered.toBytes_empty, List.nil_append, Bool.false_eq_true, if_false]
  rfl

end Receiver

end FrameLink

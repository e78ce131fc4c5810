import FrameLink.Error

/-!
# Events

Short messages that travel in the place of a frame's payload. The kind of an event is a byte of
the packet header, in which zero stands for no event.
-/

namespace FrameLink

/-- The kinds of events. -/
inductive EventKind where
  | tag
  | customDownstream
  | customBoth
  deriving DecidableEq, Repr

namespace EventKind

/-- The byte of a kind. -/
def toByte : EventKind → UInt8
  | .tag => 1
  | .customDownstream => 2
  | .customBoth => 3

/-- The kind that a header byte stands for; zero stands for no event. -/
def ofByte (byte : UInt8) : Except FrameError (Option EventKind) :=
  if byte = 0 then .ok none
  else if byte = 1 then .ok (some .tag)
  else if byte = 2 then .ok (some .customDownstream)
  else if byte = 3 then .ok (some .customBoth)
  else .error (.unknownEventType byte.toNat)

/-- The name of a kind. -/
def name : EventKind → String
  | .tag => "tag"
  | .customDownstream => "custom-downstream"
  | .customBoth => "custom-both"

/-- The kind with a name. -/
def ofName (name : String) : Except FrameError EventKind :=
  if name = EventKind.tag.name then .ok .tag
  else if name = EventKind.customDownstream.name then .ok .customDownstream
  else if name = EventKind.customBoth.name then .ok .customBoth
  else .error (.malformedEvent (.unknownKind name))

@[simp] theorem ofByte_toByte (kind : EventKind) : ofByte kind.toByte = .ok (some kind) := by
  cases kind <;> rfl

end EventKind

/-- An event: its kind and a text that nobody here looks into. -/
structure Event where
  kind : EventKind
  body : String
  deriving DecidableEq, Repr

namespace Event

/-- The bytes of an event inside a frame: its body behind its length. -/
def field (event : Event) : Bytes :=
  Varint.encodeField (Utf8.encode event.body)

/-- The event of a kind whose body has the bytes. -/
def ofBody (kind : EventKind) (body : Bytes) : Except FrameError Event :=
  match Utf8.decode body with
  | .error fault => .error (.malformedEvent (.notUtf8 fault))
  | .ok text => .ok ⟨kind, text⟩

end Event

end FrameLink

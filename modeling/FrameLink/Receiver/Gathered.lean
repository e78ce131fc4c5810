import FrameLink.Bytes

/-!
# Bytes gathered piece by piece

The front of a frame as its fragments brought it. A fragment is added at the cost of its own length,
and the number of bytes is at hand; what was gathered reads as one byte string (`toBytes`), behind
which the next fragment goes (`toBytes_append`).
-/

namespace FrameLink

/-- Bytes that came piece by piece. -/
structure Gathered where
  /-- The bytes, the last one first. -/
  backwards : Bytes
  /-- Their number. -/
  size : Nat
  size_eq : size = backwards.length
  deriving DecidableEq, Repr

namespace Gathered

/-- Nothing yet. -/
def empty : Gathered where
  backwards := []
  size := 0
  size_eq := rfl

/-- Adds a piece at the end. -/
def append (gathered : Gathered) (piece : Bytes) : Gathered where
  backwards := piece.reverseAux gathered.backwards
  size := gathered.size + piece.length
  size_eq := by simp [List.reverseAux_eq, gathered.size_eq, Nat.add_comm]

/-- The bytes, in the order in which they came. -/
def toBytes (gathered : Gathered) : Bytes :=
  gathered.backwards.reverse

@[simp] theorem toBytes_empty : empty.toBytes = [] := rfl

@[simp] theorem toBytes_append (gathered : Gathered) (piece : Bytes) :
    (gathered.append piece).toBytes = gathered.toBytes ++ piece := by
  simp [append, toBytes, List.reverseAux_eq]

@[simp] theorem length_toBytes (gathered : Gathered) :
    gathered.toBytes.length = gathered.size := by
  simp [toBytes, gathered.size_eq]

/-- Nothing but the bytes tells gathered bytes apart. -/
theorem toBytes_inj {left right : Gathered} :
    left.toBytes = right.toBytes ↔ left = right := by
  refine ⟨fun same => ?_, fun same => congrArg toBytes same⟩
  obtain ⟨left, _, rfl⟩ := left
  obtain ⟨right, _, rfl⟩ := right
  have backwards : left = right := List.reverse_inj.1 same
  subst backwards
  rfl

end Gathered

end FrameLink

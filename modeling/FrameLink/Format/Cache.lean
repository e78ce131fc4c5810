import FrameLink.Format.Version
import FrameLink.Format.Descriptor

/-!
# The format cache

The descriptor that was last announced under each version. Sender and receiver keep one each, and
nothing but the versions on the wire holds the two together.
-/

namespace FrameLink

/-- The descriptor last announced under each version. -/
structure FormatCache where
  slots : Vector (Option FormatDescriptor) 8
  deriving DecidableEq, Repr

namespace FormatCache

/-- The cache without any descriptor. -/
def empty : FormatCache :=
  ⟨Vector.replicate 8 none⟩

/-- The descriptor under a version. -/
def lookup (cache : FormatCache) (version : FormatVersion) : Option FormatDescriptor :=
  cache.slots[version]

/-- Puts a descriptor under a version. -/
def store (cache : FormatCache) (version : FormatVersion) (descriptor : FormatDescriptor) :
    FormatCache :=
  ⟨cache.slots.set version (some descriptor)⟩

/-- Empties every slot. -/
def clear (cache : FormatCache) : FormatCache :=
  { cache with slots := .replicate 8 none }

/-- The cache of a fresh end: the format of session setup, where there is one, has version 0. -/
def seeded : Option FormatDescriptor → FormatCache
  | none => empty
  | some descriptor => empty.store .outOfBand descriptor

/-- The number of versions with a descriptor. -/
def size (cache : FormatCache) : Nat :=
  cache.slots.toList.countP (·.isSome)

/-- Whether no version has a descriptor. -/
def isEmpty (cache : FormatCache) : Bool :=
  cache.size = 0

@[simp] theorem lookup_empty (version : FormatVersion) : empty.lookup version = none := by
  simp [lookup, empty]

@[simp] theorem clear_eq_empty (cache : FormatCache) : cache.clear = empty :=
  rfl

@[simp] theorem lookup_store (cache : FormatCache) (version other : FormatVersion)
    (descriptor : FormatDescriptor) :
    (cache.store version descriptor).lookup other =
      if version = other then some descriptor else cache.lookup other := by
  simp [lookup, store, Vector.getElem_set, Fin.ext_iff]

/-- A fresh end knows the format of session setup alone. -/
theorem lookup_seeded (initial : Option FormatDescriptor) (version : FormatVersion) :
    (seeded initial).lookup version = if version = .outOfBand then initial else none := by
  cases initial with
  | none => simp [seeded]
  | some descriptor => simp [seeded, eq_comm]

end FormatCache

end FrameLink

/-!
# Media flags

Four flags of a frame that nobody here looks into. They take the low half of the first byte of
every packet header.
-/

namespace FrameLink

/-- The media flags of a frame. -/
structure FrameFlags where
  deltaUnit : Bool
  media1 : Bool
  media2 : Bool
  media3 : Bool
  deriving DecidableEq, Repr

namespace FrameFlags

/-- No flag. -/
def none : FrameFlags := ⟨false, false, false, false⟩

/-- The flag of a frame that cannot be decoded on its own, alone. -/
def delta : FrameFlags := ⟨true, false, false, false⟩

/-- The four bits of the flags. -/
def bits (flags : FrameFlags) : Nat :=
  flags.deltaUnit.toNat * 8 + flags.media1.toNat * 4 + flags.media2.toNat * 2 +
    flags.media3.toNat

/-- The flags in the low four bits of a number. -/
def ofBits (value : Nat) : FrameFlags where
  deltaUnit := value / 8 % 2 = 1
  media1 := value / 4 % 2 = 1
  media2 := value / 2 % 2 = 1
  media3 := value % 2 = 1

/-- The names of the flags that are set. -/
def names (flags : FrameFlags) : List String :=
  (if flags.deltaUnit then ["delta_unit"] else []) ++
    (if flags.media1 then ["media1"] else []) ++
    (if flags.media2 then ["media2"] else []) ++
    (if flags.media3 then ["media3"] else [])

@[simp] theorem ofBits_bits (flags : FrameFlags) : ofBits flags.bits = flags := by
  obtain ⟨deltaUnit, media1, media2, media3⟩ := flags
  cases deltaUnit <;> cases media1 <;> cases media2 <;> cases media3 <;> rfl

end FrameFlags

end FrameLink

import FrameLink.Error

/-!
# Format versions

A format is named on the wire by a three-bit version. Version 0 belongs to the format agreed at
session setup; the other seven are handed out in rotation.
-/

namespace FrameLink

/-- The name of a format on the wire. -/
abbrev FormatVersion := Fin 8

namespace FormatVersion

/-- The version of the format agreed at session setup. -/
def outOfBand : FormatVersion := 0

/-- The greatest version. -/
def greatest : Nat := 7

/-- The version with a number. -/
def ofNat (value : Nat) : Except FrameError FormatVersion :=
  if fits : value < 8 then .ok ⟨value, fits⟩ else .error (.invalidFormatVersion value)

/-- The version behind this one in the rotation, which passes over 0. -/
def nextInline (version : FormatVersion) : FormatVersion :=
  ⟨version.val % greatest + 1, by simp only [greatest]; omega⟩

/-- The rotation never hands out the version of session setup. -/
theorem nextInline_ne_outOfBand (version : FormatVersion) : version.nextInline ≠ outOfBand := by
  revert version
  decide

end FormatVersion

end FrameLink

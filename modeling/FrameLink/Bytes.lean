/-!
# Byte strings

Everything that travels is a byte string. This module fixes its representation and reads and
writes the big-endian words inside it as natural numbers, so that a statement about a header is
a statement of arithmetic.
-/

namespace FrameLink

/-- A byte string. -/
abbrev Bytes := List UInt8

namespace Bytes

/-! ## Bytes -/

/-- What holds of every number below 256 holds of every byte. -/
theorem forall_byte {p : UInt8 → Prop} (every : ∀ code < 256, p (UInt8.ofNat code))
    (byte : UInt8) : p byte := by
  rw [← UInt8.ofNat_toNat (x := byte)]
  exact every byte.toNat byte.toNat_lt

/-- A number that agrees with a byte in its last eight bits gives that byte. -/
theorem ofNat_eq {byte : UInt8} {value : Nat} (same : value % 256 = byte.toNat) :
    UInt8.ofNat value = byte := by
  rw [← UInt8.toNat_inj, UInt8.toNat_ofNat']
  exact same

/-! ## Words -/

/-- The `width` big-endian bytes of `value`; what does not fit is dropped. -/
def bigEndian : (width value : Nat) → Bytes
  | 0, _ => []
  | width + 1, value => bigEndian width (value / 256) ++ [UInt8.ofNat value]

/-- The number whose big-endian bytes these are. -/
def ofBigEndian (bytes : Bytes) : Nat :=
  bytes.foldl (fun value byte => value * 256 + byte.toNat) 0

@[simp] theorem length_bigEndian (width value : Nat) :
    (bigEndian width value).length = width := by
  induction width generalizing value with
  | zero => rfl
  | succ width ih => simp [bigEndian, ih]

@[simp] theorem ofBigEndian_nil : ofBigEndian [] = 0 := rfl

/-- A byte appended at the end is the least significant one. -/
theorem ofBigEndian_concat (bytes : Bytes) (byte : UInt8) :
    ofBigEndian (bytes ++ [byte]) = ofBigEndian bytes * 256 + byte.toNat := by
  simp [ofBigEndian]

end Bytes

end FrameLink

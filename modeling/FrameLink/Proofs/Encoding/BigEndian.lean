import FrameLink.Bytes
import Mathlib.Data.List.Induction
import Mathlib.Tactic.Ring

/-!
# Big-endian words

Reading the big-endian bytes of a number gives the number back, less what the width dropped, and
bytes are the big-endian bytes of the number that they are read as. Both headers take their words
apart and put them together with nothing but this.
-/

namespace FrameLink.Bytes

/-- A word holds its number modulo a power of 256. -/
theorem ofBigEndian_bigEndian (width value : Nat) :
    ofBigEndian (bigEndian width value) = value % 256 ^ width := by
  induction width generalizing value with
  | zero => simp [bigEndian, Nat.mod_one]
  | succ width ih =>
      have digits :
          value % 256 ^ (width + 1) = value / 256 % 256 ^ width * 256 + value % 256 := by
        rw [pow_succ', Nat.mod_mul]
        ring
      rw [bigEndian, ofBigEndian_concat, ih (value / 256), digits]
      simp

/-- A word whose number fits its width reads back unchanged. -/
theorem ofBigEndian_bigEndian_of_lt {width value : Nat} (fits : value < 256 ^ width) :
    ofBigEndian (bigEndian width value) = value := by
  rw [ofBigEndian_bigEndian, Nat.mod_eq_of_lt fits]

theorem ofBigEndian_lt (bytes : Bytes) : ofBigEndian bytes < 256 ^ bytes.length := by
  induction bytes using List.reverseRecOn with
  | nil => decide
  | append_singleton front last ih =>
      have byte := last.toNat_lt
      rw [ofBigEndian_concat, List.length_append, List.length_singleton, Nat.pow_succ]
      omega

/-- Bytes are the word that holds their number. -/
theorem bigEndian_ofBigEndian (bytes : Bytes) :
    bigEndian bytes.length (ofBigEndian bytes) = bytes := by
  induction bytes using List.reverseRecOn with
  | nil => rfl
  | append_singleton front last ih =>
      have byte := last.toNat_lt
      have high : (ofBigEndian front * 256 + last.toNat) / 256 = ofBigEndian front := by omega
      have low : UInt8.ofNat (ofBigEndian front * 256 + last.toNat) = last :=
        ofNat_eq (by omega)
      rw [List.length_append, List.length_singleton, bigEndian, ofBigEndian_concat, high, low, ih]

end FrameLink.Bytes

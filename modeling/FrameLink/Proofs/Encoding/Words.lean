import FrameLink.Proofs.Encoding.Varint

/-!
# Lengths in machine words

The bytes of a length are made and read by shifts of 64-bit words. In the loops below a shift is
made only where it stays inside its word: by fewer than 64 bits, and to the left without a set bit
going over the edge. No loop ever meets a shift that cannot be made, and what comes out is what the
arithmetic on numbers says (`codec_exact`).
-/

namespace FrameLink.Varint

/-! ## Shifts -/

/-- A shift to the left, by fewer bits than a word has and where no set bit is lost. -/
def shiftLeft? (word amount : UInt64) : Option UInt64 :=
  if amount < 64 ∧ (word <<< amount) >>> amount = word then some (word <<< amount) else none

/-- A shift to the right, by fewer bits than a word has. -/
def shiftRight? (word amount : UInt64) : Option UInt64 :=
  if amount < 64 then some (word >>> amount) else none

theorem toNat_ofNat_amount {amount : Nat} (inside : amount < 64) :
    (UInt64.ofNat amount).toNat = amount :=
  UInt64.toNat_ofNat_of_lt' (Nat.lt_trans inside (by decide))

theorem shiftRight?_ofNat (word : UInt64) {amount : Nat} (inside : amount < 64) :
    ∃ shifted, shiftRight? word (UInt64.ofNat amount) = some shifted ∧
      shifted.toNat = word.toNat / 2 ^ amount := by
  have number := toNat_ofNat_amount inside
  refine ⟨_, if_pos ?_, ?_⟩
  · rw [UInt64.lt_iff_toNat_lt, number]
    exact inside
  · rw [UInt64.toNat_shiftRight, number, Nat.mod_eq_of_lt inside, Nat.shiftRight_eq_div_pow]

/-- A number with room for a group can be shifted by one. -/
theorem shiftLeft?_group {word : UInt64} (room : word.toNat < limit / 128) :
    ∃ shifted, shiftLeft? word 7 = some shifted ∧ shifted.toNat = word.toNat * 128 := by
  have amount : (7 : UInt64).toNat % 64 = 7 := rfl
  have shifted : (word <<< 7).toNat = word.toNat * 128 := by
    rw [UInt64.toNat_shiftLeft, amount, Nat.shiftLeft_eq]
    simp only [limit] at room
    omega
  refine ⟨_, if_pos ⟨by decide, ?_⟩, shifted⟩
  rw [← UInt64.toNat_inj, UInt64.toNat_shiftRight, shifted, amount, Nat.shiftRight_eq_div_pow]
  omega

/-! ## Bytes -/

theorem toNat_low (byte : UInt8) : (byte &&& 0x7F).toNat = byte.toNat % 128 := by
  rw [UInt8.toNat_and]
  exact Nat.and_two_pow_sub_one_eq_mod byte.toNat 7

theorem high_eq_zero_iff : ∀ byte : UInt8, byte &&& 0x80 = 0 ↔ byte.toNat < 128 := by
  apply Bytes.forall_byte
  decide +kernel

theorem high_or_low (bits : Nat) :
    0x80 ||| UInt8.ofNat (bits % 128) = UInt8.ofNat (128 + bits % 128) := by
  have every : ∀ low < 128, 0x80 ||| UInt8.ofNat low = UInt8.ofNat (128 + low) := by decide
  exact every (bits % 128) (Nat.mod_lt bits (by decide))

/-- A group goes into the bits that a shift has made free. -/
theorem toNat_or_low {shifted : UInt64} {value : Nat} (free : shifted.toNat = value * 128)
    (byte : UInt8) :
    (shifted ||| (byte &&& 0x7F).toUInt64).toNat = value * 128 + byte.toNat % 128 := by
  have low : byte.toNat % 128 < 2 ^ 7 := Nat.mod_lt _ (by decide)
  rw [UInt64.toNat_or, UInt8.toNat_toUInt64, toNat_low, free, Nat.mul_comm value 128]
  exact (Nat.two_pow_add_eq_or_of_lt low value).symm

/-! ## The loops -/

/-- The greatest word. -/
def greatestWord : UInt64 := 0xFFFFFFFFFFFFFFFF

/-- The loop that reads groups onto a word. -/
def readWord? (value : UInt64) (width : Nat) : Bytes → Option (Except Fault Length)
  | [] => some (.error .truncated)
  | byte :: rest =>
      if greatestWord >>> 7 < value then
        some (.error (.oversized greatestWord.toNat rest.length))
      else
        match shiftLeft? value 7 with
        | none => none
        | some shifted =>
            let value := shifted ||| (byte &&& 0x7F).toUInt64
            if byte &&& 0x80 = 0 then
              some (if rest.length < value.toNat then .error (.oversized value.toNat rest.length)
                else .ok ⟨value.toNat, width + 1⟩)
            else readWord? value (width + 1) rest

/-- The loop that counts the groups of a word, to ten at most. -/
def countGroups? (word : UInt64) (count : Nat) : Option Nat :=
  if count < 10 then
    match shiftRight? word (UInt64.ofNat (7 * count)) with
    | none => none
    | some shifted => if shifted ≠ 0 then countGroups? word (count + 1) else some count
  else some count
  termination_by 10 - count

/-- The loop that writes so many groups of a word, the most significant one first. -/
def writeGroups? (word : UInt64) : (count : Nat) → Option Bytes
  | 0 => some []
  | group + 1 =>
      match shiftRight? word (UInt64.ofNat (7 * group)) with
      | none => none
      | some shifted =>
          let bits := shifted.toUInt8 &&& 0x7F
          (writeGroups? word group).map (((if 0 < group then 0x80 ||| bits else bits)) :: ·)

/-- Writes the groups of a word. -/
def writeWord? (word : UInt64) : Option Bytes :=
  (countGroups? word 1).bind (writeGroups? word)

/-- The loop over words reads what the arithmetic on numbers says. -/
theorem readWord?_eq (value : UInt64) (width : Nat) (bytes : Bytes) :
    readWord? value width bytes = some (decodeFrom value.toNat width bytes) := by
  induction bytes generalizing value width with
  | nil => rfl
  | cons byte rest ih =>
      have full : greatestWord >>> 7 < value ↔ limit / 128 ≤ value.toNat := by
        rw [UInt64.lt_iff_toNat_lt]
        exact Nat.succ_le_iff
      rw [readWord?, decodeFrom]
      by_cases overrun : limit / 128 ≤ value.toNat
      · rw [if_pos (full.2 overrun), if_pos overrun]
        rfl
      · obtain ⟨shifted, made, free⟩ := shiftLeft?_group (Nat.lt_of_not_le overrun)
        have next := toNat_or_low free byte
        rw [if_neg (mt full.1 overrun), if_neg overrun, made]
        simp only [high_eq_zero_iff, next, ih]
        split
        next => rfl
        next => rfl

/-- Counting goes on with what is left of a number behind the groups counted so far. -/
theorem countGroups?_eq (word : UInt64) {count : Nat} (few : count ≤ 9) :
    countGroups? word (count + 1) =
      some (count + encodedLength (word.toNat / 128 ^ count)) := by
  have fits := word.toNat_lt
  induction h : 9 - count generalizing count with
  | zero =>
      obtain rfl : count = 9 := by omega
      have last : word.toNat / 128 ^ 9 < 128 := by omega
      rw [countGroups?, if_neg (by decide), encodedLength, if_pos last]
  | succ left ih =>
      have inside : 7 * (count + 1) < 64 := by omega
      obtain ⟨shifted, made, number⟩ := shiftRight?_ofNat word inside
      have power : 2 ^ (7 * (count + 1)) = 128 ^ count * 128 := by
        rw [Nat.pow_mul, Nat.pow_succ]
      rw [power, ← Nat.div_div_eq_div_mul] at number
      have more : shifted ≠ 0 ↔ ¬word.toNat / 128 ^ count < 128 := by
        rw [Ne, ← UInt64.toNat_inj, number]
        exact not_congr (Nat.div_eq_zero_iff_lt (by decide))
      rw [countGroups?, if_pos (by omega), made, encodedLength]
      dsimp only
      by_cases final : word.toNat / 128 ^ count < 128
      · rw [if_neg (mt more.1 (not_not_intro final)), if_pos final]
      · rw [if_pos (more.2 final), if_neg final, ih (by omega) (by omega), Nat.div_div_eq_div_mul,
          ← Nat.pow_succ, Nat.add_assoc, Nat.add_comm 1]

/-- A group that is written is that of its place. -/
theorem writeGroups?_succ (word : UInt64) {group : Nat} (few : group ≤ 9) :
    writeGroups? word (group + 1) = (writeGroups? word group).map
      (UInt8.ofNat ((if 0 < group then 128 else 0) + word.toNat / 128 ^ group % 128) :: ·) := by
  have inside : 7 * group < 64 := by omega
  obtain ⟨shifted, made, number⟩ := shiftRight?_ofNat word inside
  have power : 2 ^ (7 * group) = 128 ^ group := Nat.pow_mul 2 7 group
  rw [power] at number
  have bits : shifted.toUInt8 &&& 0x7F = UInt8.ofNat (word.toNat / 128 ^ group % 128) := by
    rw [← UInt8.toNat_inj, toNat_low, UInt64.toNat_toUInt8, number, toNat_finalByte]
    omega
  rw [writeGroups?, made]
  simp only [bits, high_or_low]
  split
  next => rfl
  next => rw [Nat.zero_add]

/-- The leading groups of a number, from the greatest place down. -/
theorem leading_eq_map (value : Nat) :
    leading value = (List.range (leading value).length).reverse.map fun place =>
      UInt8.ofNat (128 + value / 128 ^ place % 128) := by
  induction value using leading.induct with
  | case1 =>
      rw [leading_zero]
      rfl
  | case2 value someGroup ih =>
      have shift (place : Nat) : value / 128 ^ (place + 1) = value / 128 / 128 ^ place := by
        rw [Nat.pow_succ', Nat.div_div_eq_div_mul]
      rw [leading_of_ne_zero someGroup, List.length_append, List.length_singleton,
        List.range_succ_eq_map, List.reverse_cons, List.map_append, ← List.map_reverse,
        List.map_map]
      simp only [Function.comp_def, Nat.succ_eq_add_one, shift]
      rw [← ih, List.map_singleton, Nat.pow_zero, Nat.div_one]

/-- The groups of a number are written from the greatest place down. -/
theorem writeGroups?_eq (word : UInt64) {count : Nat} (few : count ≤ 9) :
    writeGroups? word (count + 1) = some
      (((List.range count).reverse.map fun place =>
        UInt8.ofNat (128 + word.toNat / 128 / 128 ^ place % 128)) ++
        [UInt8.ofNat (word.toNat % 128)]) := by
  induction count with
  | zero =>
      rw [writeGroups?_succ word few, Nat.pow_zero, Nat.div_one, if_neg (Nat.lt_irrefl 0),
        Nat.zero_add]
      rfl
  | succ count ih =>
      rw [writeGroups?_succ word few, ih (Nat.le_of_succ_le few), if_pos (Nat.succ_pos count),
        List.range_succ, List.reverse_concat, List.map_cons, List.cons_append,
        Nat.div_div_eq_div_mul, ← Nat.pow_succ']
      rfl

/-- The loops over words write what the arithmetic on numbers says. -/
theorem writeWord?_eq (word : UInt64) : writeWord? word = some (encode word.toNat) := by
  have small : word.toNat / 128 < 128 ^ 9 := by
    have fits := word.toNat_lt
    omega
  have counted := countGroups?_eq word (Nat.zero_le 9)
  rw [Nat.pow_zero, Nat.div_one, Nat.zero_add, Nat.zero_add, ← length_encode, encode,
    List.length_append, List.length_singleton] at counted
  rw [writeWord?, counted, Option.bind_some, writeGroups?_eq word (length_leading_le small),
    ← leading_eq_map, encode]

/-! ## The codec -/

/-- What is read of bytes is what they say: their own bytes hold the length, which has to be there
behind them. Where the length does not fit a machine word, the bytes are counted up to the one with
which it leaves the word. -/
structure ReadsExactly (bytes : Bytes) : Prop where
  ok_iff : ∀ value width, decode bytes = .ok ⟨value, width⟩ ↔
    width? bytes = some width ∧ value = ofGroups (bytes.take width) ∧ value < limit ∧
      width + value ≤ bytes.length
  truncated_iff : decode bytes = .error .truncated ↔ width? bytes = none ∧ ofGroups bytes < limit
  oversized_iff : ∀ length remaining, decode bytes = .error (.oversized length remaining) ↔
    (∃ width, width? bytes = some width ∧ length = ofGroups (bytes.take width) ∧
      length < limit ∧ remaining = bytes.length - width ∧ remaining < length) ∨
    (limit ≤ ofGroups (ownBytes bytes) ∧ length = limit - 1 ∧
      ∃ count, Overruns 0 (ownBytes bytes) count ∧ remaining = bytes.length - count)
  /-- A field is split off without reaching behind the bytes. -/
  field_iff : ∀ field rest, takeField bytes = .ok (field, rest) ↔
    ∃ width, decode bytes = .ok ⟨field.length, width⟩ ∧ bytes = bytes.take width ++ field ++ rest

/-- The written form of a number is read back, and is the only one as short. -/
structure WritesShortest (value : Nat) : Prop where
  length : (encode value).length = encodedLength value
  reads : ∀ rest, decode (encode value ++ rest) =
    if value ≤ rest.length then .ok ⟨value, encodedLength value⟩
    else .error (.oversized value rest.length)
  shortest : ∀ bytes, bytes = encode value ↔
    Terminated bytes ∧ ofGroups bytes = value ∧ bytes.length ≤ encodedLength value

theorem readsExactly (bytes : Bytes) : ReadsExactly bytes where
  ok_iff := fun _ _ => decode_ok_iff
  truncated_iff := decode_truncated_iff
  oversized_iff := fun _ _ => decode_oversized_iff
  field_iff := fun _ _ => takeField_ok_iff

/-- The codec of lengths is exact. Any bytes are read as what they say and in no other case; every
length that fits a machine word is written in its shortest form, which is read back; and the loops
over machine words do the same as the arithmetic on numbers, without a shift by 64 bits or more and
without a set bit shifted out of its word. -/
theorem codec_exact :
    (∀ bytes, ReadsExactly bytes ∧ readWord? 0 0 bytes = some (decode bytes)) ∧
    ∀ word : UInt64, WritesShortest word.toNat ∧
      countGroups? word 1 = some (encodedLength word.toNat) ∧
      writeWord? word = some (encode word.toNat) := by
  constructor
  · intro bytes
    exact ⟨readsExactly bytes, readWord?_eq 0 0 bytes⟩
  · intro word
    refine ⟨⟨length_encode _, decode_encode_append word.toNat_lt, fun _ => eq_encode_iff⟩, ?_,
      writeWord?_eq word⟩
    have counted := countGroups?_eq word (Nat.zero_le 9)
    rw [Nat.pow_zero, Nat.div_one, Nat.zero_add, Nat.zero_add] at counted
    exact counted

/-- Zero groups in front of a length are read, and not written. -/
example :
    decode [0x80, 0x80, 0x02, 7, 7] = .ok ⟨2, 3⟩ ∧ writeWord? 2 = some [0x02] := by
  cbv

end FrameLink.Varint

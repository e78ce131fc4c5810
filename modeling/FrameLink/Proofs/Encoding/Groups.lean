import FrameLink.Varint
import Mathlib.Data.List.Induction
import Mathlib.Tactic.Ring

/-!
# Groups of seven bits

A length is the number whose groups its bytes hold (`ofGroups`), up to the first byte with a clear
high bit (`width?`). Reading comes to one of three ends, told by this number and by where it ends
(`decodeFrom_cases`). Zero groups in front make no difference to a number, so it has many forms;
the one that is written has no group too many, and is the only one as short
(`eq_encode_iff`).
-/

namespace FrameLink.Varint

/-! ## The number and its bytes -/

/-- The number that comes of groups behind a number. -/
def appendGroups (value : Nat) (bytes : Bytes) : Nat :=
  bytes.foldl (fun value byte => value * 128 + byte.toNat % 128) value

/-- The number whose groups of seven bits these are, the most significant one first. -/
def ofGroups (bytes : Bytes) : Nat :=
  appendGroups 0 bytes

/-- How many bytes a length takes: one past the first byte with a clear high bit. -/
def width? (bytes : Bytes) : Option Nat :=
  (bytes.findIdx? fun byte => byte.toNat < 128).map (· + 1)

/-- The bytes of the length at the front, or all of them where it does not end. -/
def ownBytes (bytes : Bytes) : Bytes :=
  bytes.take ((width? bytes).getD bytes.length)

/-- Whether the last byte is the only one with a clear high bit. -/
def Terminated (bytes : Bytes) : Prop :=
  width? bytes = some bytes.length

instance (bytes : Bytes) : Decidable (Terminated bytes) :=
  inferInstanceAs (Decidable (_ = _))

theorem appendGroups_cons (value : Nat) (byte : UInt8) (rest : Bytes) :
    appendGroups value (byte :: rest) = appendGroups (value * 128 + byte.toNat % 128) rest :=
  rfl

theorem appendGroups_append (value : Nat) (front back : Bytes) :
    appendGroups value (front ++ back) = appendGroups (appendGroups value front) back :=
  List.foldl_append

theorem ofGroups_concat (front : Bytes) (last : UInt8) :
    ofGroups (front ++ [last]) = ofGroups front * 128 + last.toNat % 128 :=
  appendGroups_append 0 front [last]

/-- Groups never make a number smaller. -/
theorem le_appendGroups (value : Nat) (bytes : Bytes) : value ≤ appendGroups value bytes := by
  induction bytes generalizing value with
  | nil => exact Nat.le_refl value
  | cons byte rest ih =>
      have further := ih (value * 128 + byte.toNat % 128)
      rw [appendGroups_cons]
      omega

theorem appendGroups_take_le (value count : Nat) (bytes : Bytes) :
    appendGroups value (bytes.take count) ≤ appendGroups value bytes := by
  conv_rhs => rw [← List.take_append_drop count bytes, appendGroups_append]
  exact le_appendGroups _ _

section Width

variable {byte : UInt8} (rest : Bytes)

theorem width?_cons_of_lt (final : byte.toNat < 128) : width? (byte :: rest) = some 1 := by
  rw [width?, List.findIdx?_cons, if_pos (decide_eq_true final)]
  rfl

theorem width?_cons_of_le (further : 128 ≤ byte.toNat) :
    width? (byte :: rest) = (width? rest).map (· + 1) := by
  rw [width?, List.findIdx?_cons, if_neg (by simpa using further)]
  rfl

theorem ownBytes_cons_of_lt (final : byte.toNat < 128) : ownBytes (byte :: rest) = [byte] := by
  rw [ownBytes, width?_cons_of_lt rest final]
  rfl

theorem ownBytes_cons_of_le (further : 128 ≤ byte.toNat) :
    ownBytes (byte :: rest) = byte :: ownBytes rest := by
  rw [ownBytes, ownBytes, width?_cons_of_le rest further]
  cases width? rest with
  | none => rfl
  | some width => rfl

end Width

/-- A length ends with the first byte that has a clear high bit. -/
theorem width?_eq_some_iff {bytes : Bytes} {width : Nat} :
    width? bytes = some width ↔
      ∃ front last rest, bytes = front ++ last :: rest ∧ (∀ byte ∈ front, 128 ≤ byte.toNat) ∧
        last.toNat < 128 ∧ width = front.length + 1 := by
  induction bytes generalizing width with
  | nil => simp [width?]
  | cons byte rest ih =>
      rcases Nat.lt_or_ge byte.toNat 128 with final | further
      · rw [width?_cons_of_lt rest final]
        constructor
        · intro single
          cases single
          exact ⟨[], byte, rest, rfl, List.forall_mem_nil _, final, rfl⟩
        · rintro ⟨front, last, behind, split, high, _, rfl⟩
          cases front with
          | nil => rfl
          | cons first front =>
              cases split
              exact absurd final (Nat.not_lt.2 (high byte List.mem_cons_self))
      · rw [width?_cons_of_le rest further, Option.map_eq_some_iff]
        constructor
        · rintro ⟨shorter, found, rfl⟩
          obtain ⟨front, last, behind, rfl, high, final, rfl⟩ := ih.1 found
          exact ⟨byte :: front, last, behind, rfl, List.forall_mem_cons.2 ⟨further, high⟩, final,
            rfl⟩
        · rintro ⟨front, last, behind, split, high, final, rfl⟩
          cases front with
          | nil =>
              cases split
              exact absurd final (Nat.not_lt.2 further)
          | cons first front =>
              cases split
              exact ⟨front.length + 1, ih.2 ⟨front, last, behind, rfl,
                (List.forall_mem_cons.1 high).2, final, rfl⟩, rfl⟩

theorem width?_le {bytes : Bytes} {width : Nat} (ends : width? bytes = some width) :
    width ≤ bytes.length := by
  obtain ⟨front, last, rest, rfl, _, _, rfl⟩ := width?_eq_some_iff.1 ends
  rw [List.length_append, List.length_cons]
  omega

theorem ownBytes_of_width? {bytes : Bytes} {width : Nat} (ends : width? bytes = some width) :
    ownBytes bytes = bytes.take width := by
  rw [ownBytes, ends]
  rfl

theorem ownBytes_of_endless {bytes : Bytes} (endless : width? bytes = none) :
    ownBytes bytes = bytes := by
  rw [ownBytes, endless]
  exact List.take_length

/-- The bytes of a length end it whatever stands behind them. -/
theorem Terminated.width?_append {bytes : Bytes} (terminated : Terminated bytes) (rest : Bytes) :
    width? (bytes ++ rest) = some bytes.length := by
  obtain ⟨front, last, behind, split, high, final, width⟩ := width?_eq_some_iff.1 terminated
  refine width?_eq_some_iff.2 ⟨front, last, behind ++ rest, ?_, high, final, width⟩
  rw [split, List.append_assoc, List.cons_append]

theorem terminated_iff {bytes : Bytes} :
    Terminated bytes ↔ ∃ front last, bytes = front ++ [last] ∧
      (∀ byte ∈ front, 128 ≤ byte.toNat) ∧ last.toNat < 128 := by
  rw [Terminated, width?_eq_some_iff]
  constructor
  · rintro ⟨front, last, rest, rfl, high, final, width⟩
    rw [List.length_append, List.length_cons] at width
    obtain rfl : rest = [] := List.length_eq_zero_iff.1 (by omega)
    exact ⟨front, last, rfl, high, final⟩
  · rintro ⟨front, last, rfl, high, final⟩
    exact ⟨front, last, [], rfl, high, final, List.length_append⟩

/-! ## Reading -/

theorem limit_pos : 0 < limit := by
  decide

/-- The first so many bytes are what it takes for a number to leave a machine word. -/
structure Overruns (value : Nat) (bytes : Bytes) (count : Nat) : Prop where
  reached : limit ≤ appendGroups value (bytes.take count)
  fewer : ∀ earlier < count, appendGroups value (bytes.take earlier) < limit

theorem Overruns.limit_le {value count : Nat} {bytes : Bytes}
    (overruns : Overruns value bytes count) : limit ≤ appendGroups value bytes :=
  Nat.le_trans overruns.reached (appendGroups_take_le value count bytes)

theorem Overruns.unique {value first second : Nat} {bytes : Bytes}
    (left : Overruns value bytes first) (right : Overruns value bytes second) : first = second := by
  rcases Nat.lt_trichotomy first second with before | same | behind
  · exact absurd left.reached (Nat.not_le.2 (right.fewer first before))
  · exact same
  · exact absurd right.reached (Nat.not_le.2 (left.fewer second behind))

/-- Another group in front is another byte. -/
theorem Overruns.cons {value count : Nat} {byte : UInt8} {rest : Bytes} (fits : value < limit)
    (overruns : Overruns (value * 128 + byte.toNat % 128) rest count) :
    Overruns value (byte :: rest) (count + 1) where
  reached := overruns.reached
  fewer := by
    intro earlier before
    cases earlier with
    | zero => exact fits
    | succ earlier => exact overruns.fewer earlier (Nat.lt_of_succ_lt_succ before)

/-- What reading comes to, behind a number that fits a machine word: the number leaves the word, or
it does not end, or it ends and is held against the bytes that are left. -/
theorem decodeFrom_cases {value : Nat} (width : Nat) (bytes : Bytes) (fits : value < limit) :
    (∃ count, Overruns value (ownBytes bytes) count ∧
      decodeFrom value width bytes = .error (.oversized (limit - 1) (bytes.length - count))) ∨
    (appendGroups value (ownBytes bytes) < limit ∧ width? bytes = none ∧
      decodeFrom value width bytes = .error .truncated) ∨
    (appendGroups value (ownBytes bytes) < limit ∧ ∃ own, width? bytes = some own ∧
      decodeFrom value width bytes =
        if bytes.length - own < appendGroups value (ownBytes bytes) then
          .error (.oversized (appendGroups value (ownBytes bytes)) (bytes.length - own))
        else .ok ⟨appendGroups value (ownBytes bytes), width + own⟩) := by
  induction bytes generalizing value width with
  | nil => exact .inr (.inl ⟨fits, rfl, rfl⟩)
  | cons byte rest ih =>
      have left (own : Nat) : (byte :: rest).length - (own + 1) = rest.length - own := by
        rw [List.length_cons, Nat.add_sub_add_right]
      rw [decodeFrom]
      by_cases full : limit / 128 ≤ value
      · have reached : limit ≤ appendGroups value [byte] := by
          simp only [appendGroups, List.foldl_cons, List.foldl_nil, limit] at full ⊢
          omega
        refine .inl ⟨1, ⟨?_, ?_⟩, ?_⟩
        · rcases Nat.lt_or_ge byte.toNat 128 with final | further
          · rw [ownBytes_cons_of_lt rest final]
            exact reached
          · rw [ownBytes_cons_of_le rest further]
            exact reached
        · intro earlier before
          obtain rfl : earlier = 0 := Nat.lt_one_iff.1 before
          exact fits
        · rw [if_pos full, left]
          rfl
      · have next : value * 128 + byte.toNat % 128 < limit := by
          simp only [limit] at full ⊢
          omega
        rw [if_neg full]
        dsimp only
        rcases Nat.lt_or_ge byte.toNat 128 with final | further
        · rw [if_pos final, ownBytes_cons_of_lt rest final, width?_cons_of_lt rest final]
          exact .inr (.inr ⟨next, 1, rfl, by rw [left]; rfl⟩)
        · rw [if_neg (Nat.not_lt.2 further), ownBytes_cons_of_le rest further,
            width?_cons_of_le rest further, appendGroups_cons]
          rcases ih (width + 1) next with ⟨count, overruns, read⟩ | ⟨small, endless, read⟩ |
            ⟨small, own, ends, read⟩
          · refine .inl ⟨count + 1, overruns.cons fits, ?_⟩
            rw [read, left]
          · refine .inr (.inl ⟨small, ?_, read⟩)
            rw [endless]
            rfl
          · refine .inr (.inr ⟨small, own + 1, ?_, ?_⟩)
            · rw [ends]
              rfl
            · rw [read, left, Nat.add_assoc width 1 own, Nat.add_comm 1 own]

/-- What reading the length at the front comes to. -/
theorem decode_cases (bytes : Bytes) :
    (limit ≤ ofGroups (ownBytes bytes) ∧ ∃ count, Overruns 0 (ownBytes bytes) count ∧
      decode bytes = .error (.oversized (limit - 1) (bytes.length - count))) ∨
    (width? bytes = none ∧ ofGroups bytes < limit ∧ decode bytes = .error .truncated) ∨
    ∃ width, width? bytes = some width ∧ ofGroups (bytes.take width) < limit ∧
      ((bytes.length - width < ofGroups (bytes.take width) ∧
          decode bytes =
            .error (.oversized (ofGroups (bytes.take width)) (bytes.length - width))) ∨
        (width + ofGroups (bytes.take width) ≤ bytes.length ∧
          decode bytes = .ok ⟨ofGroups (bytes.take width), width⟩)) := by
  rcases decodeFrom_cases 0 bytes limit_pos with ⟨count, overruns, read⟩ |
    ⟨small, endless, read⟩ | ⟨small, own, ends, read⟩
  · exact .inl ⟨overruns.limit_le, count, overruns, read⟩
  · rw [ownBytes_of_endless endless] at small
    exact .inr (.inl ⟨endless, small, read⟩)
  · rw [ownBytes_of_width? ends] at small read
    refine .inr (.inr ⟨own, ends, small, ?_⟩)
    have inside := width?_le ends
    split at read
    next short => exact .inl ⟨short, read⟩
    next there =>
      rw [Nat.zero_add] at read
      exact .inr ⟨by rw [ofGroups]; omega, read⟩

/-! ## Writing -/

theorem leading_zero : leading 0 = [] := by
  rw [leading, if_pos rfl]

theorem leading_of_ne_zero {value : Nat} (someGroup : value ≠ 0) :
    leading value = leading (value / 128) ++ [UInt8.ofNat (128 + value % 128)] := by
  rw [leading, if_neg someGroup]

theorem toNat_furtherByte (value : Nat) :
    (UInt8.ofNat (128 + value % 128)).toNat = 128 + value % 128 := by
  simp only [UInt8.toNat_ofNat']
  omega

theorem toNat_finalByte (value : Nat) : (UInt8.ofNat (value % 128)).toNat = value % 128 := by
  simp only [UInt8.toNat_ofNat']
  omega

theorem high_leading (value : Nat) : ∀ byte ∈ leading value, 128 ≤ byte.toNat := by
  induction value using leading.induct with
  | case1 =>
      rw [leading_zero]
      exact List.forall_mem_nil _
  | case2 value someGroup ih =>
      rw [leading_of_ne_zero someGroup]
      refine List.forall_mem_append.2 ⟨ih, List.forall_mem_singleton.2 ?_⟩
      rw [toNat_furtherByte]
      exact Nat.le_add_right _ _

theorem ofGroups_leading (value : Nat) : ofGroups (leading value) = value := by
  induction value using leading.induct with
  | case1 =>
      rw [leading_zero]
      rfl
  | case2 value someGroup ih =>
      rw [leading_of_ne_zero someGroup, ofGroups_concat, ih, toNat_furtherByte]
      omega

/-- A number with few groups has few leading ones. -/
theorem length_leading_le {value count : Nat} (small : value < 128 ^ count) :
    (leading value).length ≤ count := by
  induction count generalizing value with
  | zero =>
      obtain rfl : value = 0 := Nat.lt_one_iff.1 small
      exact Nat.le_of_eq (congrArg List.length leading_zero)
  | succ count ih =>
      by_cases nothing : value = 0
      · rw [nothing, leading_zero]
        exact Nat.zero_le _
      · rw [leading_of_ne_zero nothing, List.length_append]
        apply Nat.succ_le_succ
        apply ih
        apply Nat.div_lt_of_lt_mul
        rw [← Nat.pow_succ']
        exact small

theorem terminated_encode (value : Nat) : Terminated (encode value) := by
  refine terminated_iff.2 ⟨_, _, rfl, high_leading _, ?_⟩
  rw [toNat_finalByte]
  exact Nat.mod_lt value (by decide)

theorem ofGroups_encode (value : Nat) : ofGroups (encode value) = value := by
  rw [encode, ofGroups_concat, ofGroups_leading, toNat_finalByte]
  omega

/-- A length is written in as many bytes as it is said to take. -/
theorem length_encode (value : Nat) : (encode value).length = encodedLength value := by
  induction value using encodedLength.induct with
  | case1 value small =>
      rw [encodedLength, if_pos small, encode, Nat.div_eq_of_lt small, leading_zero]
      rfl
  | case2 value large ih =>
      have someGroup : value / 128 ≠ 0 := by omega
      rw [encodedLength, if_neg large, ← ih, encode, leading_of_ne_zero someGroup, encode,
        List.length_append, List.length_append, List.length_append]
      rfl

/-- Of all bytes with a set high bit that hold a number, the leading ones of its written form are
the fewest, and as few are the same. -/
theorem leading_shortest {front : Bytes} (high : ∀ byte ∈ front, 128 ≤ byte.toNat) :
    (leading (ofGroups front)).length ≤ front.length ∧
      (front.length ≤ (leading (ofGroups front)).length → front = leading (ofGroups front)) := by
  induction front using List.reverseRecOn with
  | nil =>
      rw [show ofGroups [] = 0 from rfl, leading_zero]
      exact ⟨Nat.le_refl _, fun _ => rfl⟩
  | append_singleton front byte ih =>
      obtain ⟨others, last⟩ := List.forall_mem_append.1 high
      have further := List.forall_mem_singleton.1 last
      obtain ⟨fewest, same⟩ := ih others
      by_cases nothing : ofGroups (front ++ [byte]) = 0
      · rw [nothing, leading_zero, List.length_append]
        refine ⟨Nat.zero_le _, ?_⟩
        intro short
        exact absurd short (Nat.not_succ_le_zero _)
      · have rest : ofGroups (front ++ [byte]) / 128 = ofGroups front := by
          rw [ofGroups_concat]
          omega
        have group : UInt8.ofNat (128 + ofGroups (front ++ [byte]) % 128) = byte := by
          apply Bytes.ofNat_eq
          have byteFits := byte.toNat_lt
          rw [ofGroups_concat]
          omega
        rw [leading_of_ne_zero nothing, rest, group, List.length_append, List.length_append]
        refine ⟨Nat.add_le_add_right fewest 1, ?_⟩
        intro short
        rw [← same (Nat.le_of_add_le_add_right short)]

/-- The written form of a length is the only form of it that takes no more bytes than it. -/
theorem eq_encode_iff {bytes : Bytes} {value : Nat} :
    bytes = encode value ↔
      Terminated bytes ∧ ofGroups bytes = value ∧ bytes.length ≤ encodedLength value := by
  constructor
  · rintro rfl
    exact ⟨terminated_encode value, ofGroups_encode value, Nat.le_of_eq (length_encode value)⟩
  · rintro ⟨terminated, rfl, short⟩
    obtain ⟨front, last, rfl, high, final⟩ := terminated_iff.1 terminated
    have rest : ofGroups (front ++ [last]) / 128 = ofGroups front := by
      rw [ofGroups_concat]
      omega
    have group : UInt8.ofNat (ofGroups (front ++ [last]) % 128) = last := by
      apply Bytes.ofNat_eq
      rw [ofGroups_concat]
      omega
    rw [← length_encode, encode, rest, group, List.length_append, List.length_append] at short
    rw [encode, rest, group, ← (leading_shortest high).2 (Nat.le_of_add_le_add_right short)]

end FrameLink.Varint

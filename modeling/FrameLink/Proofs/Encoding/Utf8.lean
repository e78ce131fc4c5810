import FrameLink.Text.Utf8

/-!
# Text comes back from its bytes

A character is written in one of four lengths. For each of them the first byte opens exactly the
spans that the bytes behind it lie in, so a reader takes the character and goes on behind it; text
follows by induction on its characters. The other way round a first byte opens nothing but these
(`Opens`), so whatever is read was written (`decode_eq_ok_iff`).
-/

namespace FrameLink.Utf8

/-! ## Single bytes -/

/-- The span of the second byte in a character of three bytes. -/
def secondOfThree (high : Nat) : Span :=
  if high = 0 then ⟨0xA0, 0xBF⟩ else if high = 13 then ⟨0x80, 0x9F⟩ else continuation

/-- The span of the second byte in a character of four bytes. -/
def secondOfFour (high : Nat) : Span :=
  if high = 0 then ⟨0x90, 0xBF⟩ else if high = 4 then ⟨0x80, 0x8F⟩ else continuation

theorem following_one : ∀ code < 128,
    following (UInt8.ofNat code) = some [] ∧ leadBits (UInt8.ofNat code) = code := by
  decide

theorem following_two : ∀ high < 32, 2 ≤ high →
    following (UInt8.ofNat (0xC0 + high)) = some [continuation] ∧
      leadBits (UInt8.ofNat (0xC0 + high)) = high := by
  decide

theorem following_three : ∀ high < 16,
    following (UInt8.ofNat (0xE0 + high)) = some [secondOfThree high, continuation] ∧
      leadBits (UInt8.ofNat (0xE0 + high)) = high := by
  decide

theorem following_four : ∀ high < 5,
    following (UInt8.ofNat (0xF0 + high)) =
        some [secondOfFour high, continuation, continuation] ∧
      leadBits (UInt8.ofNat (0xF0 + high)) = high := by
  decide

/-- A byte inside its span adds its six bits. -/
theorem takeSpans_cons {span : Span} {bits : Nat} (spans : List Span) (seen code : Nat)
    (rest : Bytes) (six : bits < 64) (low : span.low.toNat ≤ 128 + bits)
    (high : 128 + bits ≤ span.high.toNat) :
    takeSpans (span :: spans) seen code (UInt8.ofNat (0x80 + bits) :: rest) =
      takeSpans spans (seen + 1) (code * 64 + bits) rest := by
  have byte : (UInt8.ofNat (0x80 + bits)).toNat = 128 + bits := by
    simp only [UInt8.toNat_ofNat']
    omega
  have inside : span.low ≤ UInt8.ofNat (0x80 + bits) ∧
      UInt8.ofNat (0x80 + bits) ≤ span.high := by
    simp only [UInt8.le_iff_toNat_le, byte]
    exact ⟨low, high⟩
  have sixBits : (128 + bits) % 64 = bits := by omega
  rw [takeSpans, if_pos inside, byte, sixBits]

/-- The bytes behind the second one are bound by nothing. -/
theorem takeSpans_continuation {bits : Nat} (spans : List Span) (seen code : Nat) (rest : Bytes)
    (six : bits < 64) :
    takeSpans (continuation :: spans) seen code (UInt8.ofNat (0x80 + bits) :: rest) =
      takeSpans spans (seen + 1) (code * 64 + bits) rest := by
  apply takeSpans_cons spans seen code rest six
  · simp [continuation]
  · simp only [continuation, UInt8.reduceToNat]
    omega

/-! ## Characters -/

/-- Reading goes on behind a character that was read. -/
theorem decodeFrom_cons {lead : UInt8} {spans : List Span} {code : Nat} {rest behind : Bytes}
    (index : Nat) (opens : following lead = some spans)
    (taken : takeSpans spans 1 (leadBits lead) rest = .ok (code, behind)) :
    decodeFrom index (lead :: rest) =
      (decodeFrom (index + 1 + spans.length) behind).map (Char.ofNat code :: ·) := by
  rw [decodeFrom]
  simp only [opens]
  split
  next length refused => simp [taken] at refused
  next code' behind' taken' =>
    rw [taken] at taken'
    cases taken'
    cases decodeFrom (index + 1 + spans.length) behind <;> rfl

/-- The second of three bytes keeps clear of long forms and of surrogates. -/
theorem secondOfThree_spans (code : Nat) (long : 0x800 ≤ code) (short : code < 0x10000)
    (valid : code < 0xD800 ∨ 0xDFFF < code) :
    (secondOfThree (code / 4096)).low.toNat ≤ 128 + code / 64 % 64 ∧
      128 + code / 64 % 64 ≤ (secondOfThree (code / 4096)).high.toNat := by
  unfold secondOfThree
  split
  · simp only [UInt8.reduceToNat]
    omega
  · split <;> simp only [continuation, UInt8.reduceToNat] <;> omega

/-- The second of four bytes keeps clear of long forms and of what lies above U+10FFFF. -/
theorem secondOfFour_spans (code : Nat) (long : 0x10000 ≤ code) (valid : code < 0x110000) :
    (secondOfFour (code / 262144)).low.toNat ≤ 128 + code / 4096 % 64 ∧
      128 + code / 4096 % 64 ≤ (secondOfFour (code / 262144)).high.toNat := by
  unfold secondOfFour
  split
  · simp only [UInt8.reduceToNat]
    omega
  · split <;> simp only [continuation, UInt8.reduceToNat] <;> omega

/-- The bytes of a character lie in the spans that the first of them opens. -/
theorem exists_takeSpans (char : Char) :
    ∃ lead spans behind, encodeChar char = lead :: behind ∧ following lead = some spans ∧
      behind.length = spans.length ∧
      ∀ rest, takeSpans spans 1 (leadBits lead) (behind ++ rest) = .ok (char.toNat, rest) := by
  have valid : char.toNat < 0xD800 ∨ 0xDFFF < char.toNat ∧ char.toNat < 0x110000 := char.valid
  unfold encodeChar
  dsimp only
  by_cases one : char.toNat < 0x80
  · obtain ⟨opens, bits⟩ := following_one char.toNat one
    refine ⟨_, _, _, if_pos one, opens, rfl, ?_⟩
    intro rest
    rw [bits, List.nil_append, takeSpans]
  rw [if_neg one]
  by_cases two : char.toNat < 0x800
  · obtain ⟨opens, bits⟩ := following_two (char.toNat / 64) (by omega) (by omega)
    have whole : char.toNat / 64 * 64 + char.toNat % 64 = char.toNat := by omega
    refine ⟨_, _, _, if_pos two, opens, rfl, ?_⟩
    intro rest
    rw [bits, List.singleton_append, takeSpans_continuation _ _ _ _ (by omega), takeSpans, whole]
  rw [if_neg two]
  by_cases three : char.toNat < 0x10000
  · obtain ⟨opens, bits⟩ := following_three (char.toNat / 4096) (by omega)
    have second := secondOfThree_spans char.toNat (by omega) three (by omega)
    have whole : (char.toNat / 4096 * 64 + char.toNat / 64 % 64) * 64 + char.toNat % 64 =
        char.toNat := by omega
    refine ⟨_, _, _, if_pos three, opens, rfl, ?_⟩
    intro rest
    rw [bits, List.cons_append, List.singleton_append,
      takeSpans_cons _ _ _ _ (by omega) second.1 second.2,
      takeSpans_continuation _ _ _ _ (by omega), takeSpans, whole]
  · obtain ⟨opens, bits⟩ := following_four (char.toNat / 262144) (by omega)
    have second := secondOfFour_spans char.toNat (by omega) (by omega)
    have whole : ((char.toNat / 262144 * 64 + char.toNat / 4096 % 64) * 64 +
        char.toNat / 64 % 64) * 64 + char.toNat % 64 = char.toNat := by omega
    refine ⟨_, _, _, if_neg three, opens, rfl, ?_⟩
    intro rest
    rw [bits, List.cons_append, List.cons_append, List.singleton_append,
      takeSpans_cons _ _ _ _ (by omega) second.1 second.2,
      takeSpans_continuation _ _ _ _ (by omega), takeSpans_continuation _ _ _ _ (by omega),
      takeSpans, whole]

/-- A character that was written is read, and reading goes on behind it. -/
theorem decodeFrom_encodeChar (index : Nat) (char : Char) (rest : Bytes) :
    decodeFrom index (encodeChar char ++ rest) =
      (decodeFrom (index + (encodeChar char).length) rest).map (char :: ·) := by
  obtain ⟨lead, spans, behind, written, opens, length, taken⟩ := exists_takeSpans char
  rw [written, List.cons_append, decodeFrom_cons index opens (taken rest), Char.ofNat_toNat,
    List.length_cons, length, Nat.add_assoc, Nat.add_comm 1]

/-! ## Text -/

/-- Characters that were written are read to the end. -/
theorem decodeFrom_flatMap_encodeChar (index : Nat) (chars : List Char) :
    decodeFrom index (chars.flatMap encodeChar) = .ok chars := by
  induction chars generalizing index with
  | nil => simp [decodeFrom]
  | cons char chars ih =>
      rw [List.flatMap_cons, decodeFrom_encodeChar, ih]
      rfl

/-- The bytes of a text are read as that text. -/
@[simp] theorem decode_encode (text : String) : decode (encode text) = .ok text := by
  rw [decode, encode, decodeFrom_flatMap_encodeChar]
  simp [Except.map]

/-! ## Reading back -/

/-- What a first byte opens: a character of one to four bytes. -/
inductive Opens : UInt8 → List Span → Prop
  | one {code : Nat} (small : code < 128) : Opens (UInt8.ofNat code) []
  | two {high : Nat} (small : high < 32) (large : 2 ≤ high) :
      Opens (UInt8.ofNat (0xC0 + high)) [continuation]
  | three {high : Nat} (small : high < 16) :
      Opens (UInt8.ofNat (0xE0 + high)) [secondOfThree high, continuation]
  | four {high : Nat} (small : high < 5) :
      Opens (UInt8.ofNat (0xF0 + high)) [secondOfFour high, continuation, continuation]

theorem following_continuation : ∀ bits < 66, following (UInt8.ofNat (0x80 + bits)) = none := by
  decide

theorem following_beyond : ∀ more < 11, following (UInt8.ofNat (0xF5 + more)) = none := by
  decide

theorem opens_of_following {lead : UInt8} {spans : List Span}
    (opens : following lead = some spans) : Opens lead spans := by
  revert opens
  apply Bytes.forall_byte _ lead
  intro code byte opens
  rcases Nat.lt_or_ge code 0x80 with one | from80
  · rw [(following_one code one).1] at opens
    cases opens
    exact .one one
  rcases Nat.lt_or_ge code 0xC2 with stray | fromC2
  · obtain ⟨bits, rfl⟩ := Nat.exists_eq_add_of_le from80
    rw [following_continuation bits (by omega)] at opens
    cases opens
  rcases Nat.lt_or_ge code 0xE0 with two | fromE0
  · obtain ⟨high, rfl⟩ := Nat.exists_eq_add_of_le (Nat.le_trans (by decide : 0xC0 ≤ 0xC2) fromC2)
    have large : 2 ≤ high := by omega
    rw [(following_two high (by omega) large).1] at opens
    cases opens
    exact .two (by omega) large
  rcases Nat.lt_or_ge code 0xF0 with three | fromF0
  · obtain ⟨high, rfl⟩ := Nat.exists_eq_add_of_le fromE0
    rw [(following_three high (by omega)).1] at opens
    cases opens
    exact .three (by omega)
  rcases Nat.lt_or_ge code 0xF5 with four | fromF5
  · obtain ⟨high, rfl⟩ := Nat.exists_eq_add_of_le fromF0
    rw [(following_four high (by omega)).1] at opens
    cases opens
    exact .four (by omega)
  · obtain ⟨more, rfl⟩ := Nat.exists_eq_add_of_le fromF5
    rw [following_beyond more (by omega)] at opens
    cases opens

/-- A byte that was taken lies in its span. -/
theorem exists_of_takeSpans {span : Span} {spans : List Span} {seen code value : Nat}
    {bytes rest : Bytes} (inside : 0x80 ≤ span.low.toNat ∧ span.high.toNat ≤ 0xBF)
    (taken : takeSpans (span :: spans) seen code bytes = .ok (value, rest)) :
    ∃ bits behind, bits < 64 ∧ span.low.toNat ≤ 128 + bits ∧ 128 + bits ≤ span.high.toNat ∧
      bytes = UInt8.ofNat (0x80 + bits) :: behind ∧
      takeSpans spans (seen + 1) (code * 64 + bits) behind = .ok (value, rest) := by
  cases bytes with
  | nil => cases taken
  | cons byte behind =>
      rw [takeSpans] at taken
      split at taken
      next within =>
        rw [UInt8.le_iff_toNat_le, UInt8.le_iff_toNat_le] at within
        have bits : 128 + byte.toNat % 64 = byte.toNat := by omega
        refine ⟨byte.toNat % 64, behind, Nat.mod_lt _ (by decide), ?_, ?_, ?_, taken⟩
        · rw [bits]
          exact within.1
        · rw [bits]
          exact within.2
        · rw [bits, UInt8.ofNat_toNat]
      next => cases taken

/-- A code point that is no half of a pair is the number of its character. -/
theorem toNat_ofNat_of_valid {code : Nat}
    (valid : code < 0xD800 ∨ 0xDFFF < code ∧ code < 0x110000) : (Char.ofNat code).toNat = code := by
  rw [Char.ofNat, dif_pos valid]
  rfl

theorem secondOfThree_cases {high : Nat} (small : high < 16) :
    (0x80 ≤ (secondOfThree high).low.toNat ∧ (secondOfThree high).high.toNat ≤ 0xBF) ∧
      (high = 0 → (secondOfThree high).low.toNat = 0xA0) ∧
      (high = 13 → (secondOfThree high).high.toNat = 0x9F) := by
  revert high
  decide

theorem secondOfFour_cases {high : Nat} (small : high < 5) :
    (0x80 ≤ (secondOfFour high).low.toNat ∧ (secondOfFour high).high.toNat ≤ 0xBF) ∧
      (high = 0 → (secondOfFour high).low.toNat = 0x90) ∧
      (high = 4 → (secondOfFour high).high.toNat = 0x8F) := by
  revert high
  decide

theorem encodeChar_one {code : Nat} (small : code < 128) :
    encodeChar (Char.ofNat code) = [UInt8.ofNat code] := by
  have number : (Char.ofNat code).toNat = code := toNat_ofNat_of_valid (.inl (by omega))
  rw [encodeChar, number]
  exact if_pos small

theorem encodeChar_two {high low : Nat} (small : high < 32) (large : 2 ≤ high) (six : low < 64) :
    encodeChar (Char.ofNat (high * 64 + low)) =
      [UInt8.ofNat (0xC0 + high), UInt8.ofNat (0x80 + low)] := by
  have number : (Char.ofNat (high * 64 + low)).toNat = high * 64 + low :=
    toNat_ofNat_of_valid (.inl (by omega))
  have first : (high * 64 + low) / 64 = high := by omega
  have last : (high * 64 + low) % 64 = low := by omega
  rw [encodeChar, number]
  rw [if_neg (by omega), if_pos (by omega), first, last]

theorem encodeChar_three {high middle low code : Nat}
    (parts : code = (high * 64 + middle) * 64 + low) (second : middle < 64) (last : low < 64)
    (long : 0x800 ≤ code) (small : code < 0x10000) (valid : code < 0xD800 ∨ 0xDFFF < code) :
    encodeChar (Char.ofNat code) =
      [UInt8.ofNat (0xE0 + high), UInt8.ofNat (0x80 + middle), UInt8.ofNat (0x80 + low)] := by
  have number : (Char.ofNat code).toNat = code := toNat_ofNat_of_valid (by omega)
  have first : code / 4096 = high := by omega
  have inner : code / 64 % 64 = middle := by omega
  have final : code % 64 = low := by omega
  rw [encodeChar, number]
  rw [if_neg (by omega), if_neg (by omega), if_pos small, first, inner, final]

theorem encodeChar_four {high upper middle low code : Nat}
    (parts : code = ((high * 64 + upper) * 64 + middle) * 64 + low) (second : upper < 64)
    (third : middle < 64) (last : low < 64) (long : 0x10000 ≤ code) (small : code < 0x110000) :
    encodeChar (Char.ofNat code) =
      [UInt8.ofNat (0xF0 + high), UInt8.ofNat (0x80 + upper), UInt8.ofNat (0x80 + middle),
        UInt8.ofNat (0x80 + low)] := by
  have number : (Char.ofNat code).toNat = code := toNat_ofNat_of_valid (by omega)
  have first : code / 262144 = high := by omega
  have outer : code / 4096 % 64 = upper := by omega
  have inner : code / 64 % 64 = middle := by omega
  have final : code % 64 = low := by omega
  rw [encodeChar, number]
  rw [if_neg (by omega), if_neg (by omega), if_neg (by omega), first, outer, inner, final]

/-- A character that was read is written as the bytes that it was read from. -/
theorem encodeChar_of_takeSpans {lead : UInt8} {spans : List Span} {code : Nat}
    {bytes rest : Bytes} (opens : Opens lead spans)
    (taken : takeSpans spans 1 (leadBits lead) bytes = .ok (code, rest)) :
    encodeChar (Char.ofNat code) ++ rest = lead :: bytes := by
  have inner : 0x80 ≤ continuation.low.toNat ∧ continuation.high.toNat ≤ 0xBF := by decide
  cases opens with
  | one small =>
      rw [(following_one _ small).2] at taken
      cases taken
      rw [encodeChar_one small]
      rfl
  | two small large =>
      rw [(following_two _ small large).2] at taken
      obtain ⟨low, _, last, -, -, rfl, behind⟩ := exists_of_takeSpans inner taken
      cases behind
      rw [encodeChar_two small large last]
      rfl
  | three small =>
      rw [(following_three _ small).2] at taken
      obtain ⟨within, long, plain⟩ := secondOfThree_cases small
      obtain ⟨middle, _, second, above, below, rfl, more⟩ := exists_of_takeSpans within taken
      obtain ⟨low, _, last, -, -, rfl, behind⟩ := exists_of_takeSpans inner more
      cases behind
      rw [encodeChar_three rfl second last (by omega) (by omega) (by omega)]
      rfl
  | four small =>
      rw [(following_four _ small).2] at taken
      obtain ⟨within, long, bound⟩ := secondOfFour_cases small
      obtain ⟨upper, _, second, above, below, rfl, more⟩ := exists_of_takeSpans within taken
      obtain ⟨middle, _, third, -, -, rfl, further⟩ := exists_of_takeSpans inner more
      obtain ⟨low, _, last, -, -, rfl, behind⟩ := exists_of_takeSpans inner further
      cases behind
      rw [encodeChar_four rfl second third last (by omega) (by omega)]
      rfl

/-- Characters that were read are written as the bytes that they were read from. -/
theorem flatMap_encodeChar_of_decodeFrom {index : Nat} {bytes : Bytes} {chars : List Char}
    (read : decodeFrom index bytes = .ok chars) : chars.flatMap encodeChar = bytes := by
  fun_induction decodeFrom index bytes generalizing chars with
  | case1 =>
      cases read
      rfl
  | case2 => cases read
  | case3 => cases read
  | case4 => cases read
  | case5 index lead rest spans opens code behind taken others read' ih =>
      cases read
      rw [List.flatMap_cons, ih read', encodeChar_of_takeSpans (opens_of_following opens) taken]

/-- Text is read exactly where it was written. -/
theorem decode_eq_ok_iff {bytes : Bytes} {text : String} :
    decode bytes = .ok text ↔ bytes = encode text := by
  constructor
  · intro read
    rw [decode] at read
    cases characters : decodeFrom 0 bytes with
    | error fault =>
        rw [characters] at read
        cases read
    | ok chars =>
        rw [characters] at read
        cases read
        rw [encode, String.toList_ofList, flatMap_encodeChar_of_decodeFrom characters]
  · rintro rfl
    exact decode_encode text

end FrameLink.Utf8

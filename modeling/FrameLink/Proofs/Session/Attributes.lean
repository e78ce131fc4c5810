import FrameLink.Session.Attributes
import FrameLink.Proofs.Encoding.Base64
import FrameLink.Proofs.Encoding.Decimal
import FrameLink.Proofs.Encoding.Trimming
import FrameLink.Proofs.Encoding.Utf8

/-!
# A session comes back from its attributes

Attributes are cut at semicolons and at the first equals sign of each, and what lies between is
trimmed. None of this touches what was written: keys, digits and base64 hold neither a semicolon nor
a blank, and the equals signs that pad base64 stand behind the one that ends the key. Only the end
of the format changes, which loses its null characters.
-/

namespace FrameLink.Session

open FrameLink.Text (isBlank isDigit trim trimEnd decimal limit8 limit32 limit64
  trimEnd_eq_rdropWhile trim_of_forall)

/-! ## Null characters at the end -/

/-- A text without the null characters at its end. -/
def withoutNulls (text : String) : String :=
  String.ofList (trimEnd (· == '\x00') text.toList)

/-- A text is another one with null characters behind it, and that other one ends in none. -/
structure Stripped (text kept : String) : Prop where
  padded : ∃ count, text.toList = kept.toList ++ List.replicate count '\x00'
  bare : kept.toList.getLast? ≠ some '\x00'

theorem toList_withoutNulls (text : String) :
    (withoutNulls text).toList = text.toList.rdropWhile (· == '\x00') := by
  rw [withoutNulls, String.toList_ofList, trimEnd_eq_rdropWhile]

theorem stripped_withoutNulls (text : String) : Stripped text (withoutNulls text) where
  padded := by
    have nulls : ∀ char ∈ text.toList.rtakeWhile (· == '\x00'), char = '\x00' :=
      fun char inside => eq_of_beq (List.mem_rtakeWhile_imp (p := (· == '\x00')) inside)
    refine ⟨(text.toList.rtakeWhile (· == '\x00')).length, ?_⟩
    rw [toList_withoutNulls, ← List.eq_replicate_of_mem nulls, List.rdropWhile_append_rtakeWhile]
  bare := by
    rw [toList_withoutNulls]
    intro ends
    have nonempty : text.toList.rdropWhile (· == '\x00') ≠ [] := by
      intro empty
      rw [empty] at ends
      cases ends
    rw [List.getLast?_eq_some_getLast nonempty] at ends
    have last := List.rdropWhile_last_not (· == '\x00') text.toList nonempty
    rw [Option.some.inj ends] at last
    exact last (beq_self_eq_true '\x00')

/-- Only null characters at the end are lost. -/
theorem withoutNulls_eq_self_iff {text : String} :
    withoutNulls text = text ↔ text.toList.getLast? ≠ some '\x00' := by
  constructor
  · intro same
    have bare := (stripped_withoutNulls text).bare
    rwa [same] at bare
  · intro bare
    apply String.toList_inj.mp
    rw [toList_withoutNulls, List.rdropWhile_eq_self_iff]
    intro nonempty null
    apply bare
    rw [List.getLast?_eq_some_getLast nonempty, eq_of_beq null]

/-- A text without its null characters is told by what it was stripped to. -/
theorem Stripped.withoutNulls_eq {text kept : String} (stripped : Stripped text kept) :
    withoutNulls text = kept := by
  obtain ⟨count, padded⟩ := stripped.padded
  have nulls : ∀ char ∈ List.replicate count '\x00', (char == '\x00') = true :=
    fun char inside => beq_iff_eq.mpr (List.eq_of_mem_replicate inside)
  rw [← withoutNulls_eq_self_iff.mpr stripped.bare]
  apply String.toList_inj.mp
  rw [toList_withoutNulls, toList_withoutNulls, padded, List.rdropWhile, List.reverse_append,
    List.dropWhile_append_of_pos, List.rdropWhile]
  intro char inside
  exact nulls char (List.mem_reverse.mp inside)

@[simp] theorem withoutNulls_withoutNulls (text : String) :
    withoutNulls (withoutNulls text) = withoutNulls text :=
  withoutNulls_eq_self_iff.mpr (stripped_withoutNulls text).bare

/-! ## Plain characters -/

/-- A character that cutting at semicolons and trimming leave alone. -/
structure Plain (char : Char) : Prop where
  solid : isBlank char = false
  inner : char ≠ ';'

instance (char : Char) : Decidable (Plain char) :=
  decidable_of_iff (isBlank char = false ∧ char ≠ ';')
    ⟨fun both => ⟨both.1, both.2⟩, fun plain => ⟨plain.solid, plain.inner⟩⟩

theorem plain_of_all {text : List Char} (all : text.all (fun char => decide (Plain char)) = true) :
    ∀ char ∈ text, Plain char := by
  intro char inside
  exact of_decide_eq_true (List.all_eq_true.mp all char inside)

theorem plain_of_digit {char : Char} (digit : isDigit char = true) : Plain char :=
  Text.forall_digit Plain (by decide) digit

/-- A byte of base64 is one character, and a plain one; the padding is an equals sign, which is
plain as well. -/
theorem plain_of_written {byte : UInt8} (written : Base64.Written byte) :
    byte.toNat < 0x80 ∧ Plain (Char.ofNat byte.toNat) := by
  have symbols : ∀ value < 64, (Base64.symbol value).toNat < 0x80 ∧
      Plain (Char.ofNat (Base64.symbol value).toNat) := by
    decide
  rcases written with rfl | ⟨value, six, rfl⟩
  · decide
  · exact symbols value six

/-! ## Cutting and trimming -/

/-- Attributes of plain characters are found between the semicolons as they were put there. -/
theorem segments_intercalate {texts : List (List Char)} (nonempty : texts ≠ [])
    (plain : ∀ text ∈ texts, text ≠ [] ∧ ∀ char ∈ text, Plain char) :
    segments (List.intercalate [';'] texts) = texts := by
  have cut : (List.intercalate [';'] texts).splitOn ';' = texts := by
    apply List.splitOn_intercalate
    · intro text inside semicolon
      exact ((plain text inside).2 ';' semicolon).inner rfl
    · exact nonempty
  have trimmed : texts.map trim = texts := by
    have each : ∀ text ∈ texts, trim text = id text := fun text inside =>
      trim_of_forall fun char within => ((plain text inside).2 char within).solid
    rw [List.map_congr_left each, List.map_id]
  rw [segments, cut, trimmed]
  apply List.filter_eq_self.mpr
  intro text inside
  simp [(plain text inside).1]

/-- A text is split behind its first part where that holds no separator. -/
theorem splitOnce?_append {separator : Char} {front : List Char} (back : List Char)
    (clear : separator ∉ front) :
    splitOnce? separator (front ++ separator :: back) = some (front, back) := by
  induction front with
  | nil => simp [splitOnce?]
  | cons char rest ih =>
      simp only [List.mem_cons, not_or] at clear
      rw [List.cons_append, splitOnce?, if_neg (Ne.symm clear.1), ih clear.2]
      rfl

/-- The key and the value of an attribute are read as they were written. -/
theorem ofSegment_attributeText {key : String} {value : List Char} (clear : '=' ∉ key.toList)
    (solidKey : ∀ char ∈ key.toList, isBlank char = false)
    (solidValue : ∀ char ∈ value, isBlank char = false) :
    Attribute.ofSegment (attributeText key value) = .ok ⟨key.toList, value⟩ := by
  rw [Attribute.ofSegment, attributeText, splitOnce?_append value clear]
  simp only [trim_of_forall solidKey, trim_of_forall solidValue]

/-! ## Values -/

/-- Characters taken from ASCII bytes are written as those bytes. -/
theorem encode_asciiText {bytes : Bytes} (ascii : ∀ byte ∈ bytes, byte.toNat < 0x80) :
    Utf8.encode (String.ofList (asciiText bytes)) = bytes := by
  rw [Utf8.encode, String.toList_ofList, asciiText]
  induction bytes with
  | nil => rfl
  | cons byte rest ih =>
      obtain ⟨here, behind⟩ := List.forall_mem_cons.mp ascii
      rw [List.map_cons, List.flatMap_cons, ih behind, Utf8.encodeChar_one here,
        UInt8.ofNat_toNat, List.singleton_append]

/-- Base64 is text, and no other text has its bytes. -/
theorem encode_eq_base64_iff {value : List Char} {bytes : Bytes} :
    Utf8.encode (String.ofList value) = Base64.encode bytes ↔
      value = asciiText (Base64.encode bytes) := by
  have ascii : ∀ byte ∈ Base64.encode bytes, byte.toNat < 0x80 := fun byte inside =>
    (plain_of_written (Base64.written_of_mem_encode inside)).1
  constructor
  · intro same
    rw [← encode_asciiText ascii] at same
    have read := Utf8.decode_eq_ok_iff.mpr same.symm
    rw [Utf8.decode_encode] at read
    exact (String.ofList_injective (Except.ok.inj read)).symm
  · rintro rfl
    exact encode_asciiText ascii

/-- A format is read exactly from the Base64 of its text, with null characters behind it or not. -/
theorem readCaps_eq_ok_iff {value : List Char} {text : String} :
    readCaps value = .ok text ↔ ∃ whole, Stripped whole text ∧
      value = asciiText (Base64.encode (Utf8.encode whole)) := by
  constructor
  · intro read
    unfold readCaps at read
    split at read
    next => cases read
    next bytes decoded =>
      split at read
      next => cases read
      next whole characters =>
        cases read
        rw [Base64.decode_eq_ok_iff, Utf8.decode_eq_ok_iff.mp characters] at decoded
        exact ⟨whole, stripped_withoutNulls whole, encode_eq_base64_iff.mp decoded⟩
  · rintro ⟨whole, stripped, same⟩
    have decoded := Base64.decode_eq_ok_iff.mpr (encode_eq_base64_iff.mpr same)
    simp only [readCaps, decoded, Utf8.decode_encode]
    exact congrArg Except.ok stripped.withoutNulls_eq

/-- The format that was written is read without the null characters at its end. -/
theorem readCaps_encode (text : String) :
    readCaps (asciiText (Base64.encode (Utf8.encode text))) = .ok (withoutNulls text) :=
  readCaps_eq_ok_iff.mpr ⟨text, stripped_withoutNulls text, rfl⟩

theorem plain_of_mem_caps (text : String) {char : Char}
    (inside : char ∈ asciiText (Base64.encode (Utf8.encode text))) : Plain char := by
  obtain ⟨byte, written, rfl⟩ := List.mem_map.mp inside
  exact (plain_of_written (Base64.written_of_mem_encode written)).2

theorem plain_of_mem_decimal (value : Nat) {char : Char} (inside : char ∈ decimal value) :
    Plain char :=
  plain_of_digit (Text.isDigit_of_mem_decimal value inside)

/-- A number is read exactly from its digits, with a plus sign in front or not, where it is below
the limit. -/
theorem readNumber_eq_ok_iff {key : String} {limit number : Nat} {value : List Char} :
    readNumber key limit value = .ok number ↔ Text.Unsigned value number ∧ number < limit := by
  rw [← Text.readUnsigned?_eq_some_iff, readNumber]
  cases Text.readUnsigned? limit value with
  | none => simp
  | some other => simp

/-- The version of the format of a session is read exactly from the digits of 0. -/
theorem readCapsVersion_eq_ok_iff {value : List Char} :
    readCapsVersion value = .ok () ↔ Text.Unsigned value 0 := by
  have zero : readNumber "capsversion" limit8 value = .ok 0 ↔ Text.Unsigned value 0 := by
    rw [readNumber_eq_ok_iff]
    exact and_iff_left (by decide)
  rw [← zero, readCapsVersion]
  cases readNumber "capsversion" limit8 value with
  | error fault => simp
  | ok version =>
      by_cases outOfBand : version = 0
      · simp [FormatVersion.outOfBand, outOfBand]
      · simp [FormatVersion.outOfBand, outOfBand]

/-- A number below the limit is read. -/
theorem readNumber_decimal (key : String) {limit value : Nat} (small : value < limit) :
    readNumber key limit (decimal value) = .ok value := by
  rw [readNumber, Text.readUnsigned?_decimal, if_pos small]

/-! ## Attributes -/

/-- The keys that are written. -/
def keys : List String :=
  ["caps", "capsversion", "mtu", "clock-rate"]

/-- A key ends at the first equals sign behind it, for it holds none. -/
theorem plain_of_mem_keys : ∀ key ∈ keys, '=' ∉ key.toList ∧ ∀ char ∈ key.toList, Plain char := by
  intro key known
  simp only [keys, List.mem_cons, List.not_mem_nil, or_false] at known
  rcases known with rfl | rfl | rfl | rfl
  · have letters : "caps".toList = ['c', 'a', 'p', 's'] := String.toList_ofList
    rw [letters]
    exact ⟨by decide, plain_of_all (by decide)⟩
  · have letters : "capsversion".toList =
        ['c', 'a', 'p', 's', 'v', 'e', 'r', 's', 'i', 'o', 'n'] := String.toList_ofList
    rw [letters]
    exact ⟨by decide, plain_of_all (by decide)⟩
  · have letters : "mtu".toList = ['m', 't', 'u'] := String.toList_ofList
    rw [letters]
    exact ⟨by decide, plain_of_all (by decide)⟩
  · have letters : "clock-rate".toList =
        ['c', 'l', 'o', 'c', 'k', '-', 'r', 'a', 't', 'e'] := String.toList_ofList
    rw [letters]
    exact ⟨by decide, plain_of_all (by decide)⟩

section

variable (session : Session)

/-- An attribute with a known key and a plain value says what the value says for that key. -/
theorem applySegment_attributeText {key : String} {value : List Char}
    (known : key ∈ keys) (plain : ∀ char ∈ value, Plain char) :
    session.applySegment (attributeText key value) =
      session.applyAttribute ⟨key.toList, value⟩ := by
  obtain ⟨clear, plainKey⟩ := plain_of_mem_keys key known
  have read := ofSegment_attributeText clear (fun char inside => (plainKey char inside).solid)
    fun char inside => (plain char inside).solid
  rw [applySegment, read]

theorem applySegment_caps (text : String) :
    session.applySegment
        (attributeText "caps" (asciiText (Base64.encode (Utf8.encode text)))) =
      .ok { session with descriptor := some (withoutNulls text) } := by
  rw [applySegment_attributeText session (by simp [keys]) fun _ => plain_of_mem_caps text]
  simp [applyAttribute, readCaps_encode, Except.map]

theorem applySegment_capsVersion :
    session.applySegment (attributeText "capsversion" (decimal FormatVersion.outOfBand.val)) =
      .ok session := by
  have small : FormatVersion.outOfBand.val < limit8 := by decide
  have read : readCapsVersion (decimal FormatVersion.outOfBand.val) = .ok () := by
    rw [readCapsVersion, readNumber_decimal _ small]
    exact if_pos rfl
  rw [applySegment_attributeText session (by simp [keys]) fun _ => plain_of_mem_decimal _]
  simp [applyAttribute, read, Except.map]

theorem applySegment_mtu {mtu : Nat} (small : mtu < limit64) :
    session.applySegment (attributeText "mtu" (decimal mtu)) = .ok { session with mtu } := by
  rw [applySegment_attributeText session (by simp [keys]) fun _ => plain_of_mem_decimal _]
  simp [applyAttribute, readNumber_decimal _ small, Except.map]

theorem applySegment_clockRate {clockRate : Nat} (small : clockRate < limit32) :
    session.applySegment (attributeText "clock-rate" (decimal clockRate)) =
      .ok { session with clockRate } := by
  rw [applySegment_attributeText session (by simp [keys]) fun _ => plain_of_mem_decimal _]
  simp [applyAttribute, readNumber_decimal _ small, Except.map]

end

/-! ## Sessions -/

/-- A session whose format has lost the null characters at its end. -/
def stripped (session : Session) : Session :=
  { session with descriptor := session.descriptor.map withoutNulls }

theorem plain_attributeText (key : String) {value : List Char}
    (known : key ∈ keys) (plain : ∀ char ∈ value, Plain char) :
    attributeText key value ≠ [] ∧ ∀ char ∈ attributeText key value, Plain char := by
  constructor
  · simp [attributeText]
  · intro char inside
    rcases List.mem_append.mp inside with inKey | behind
    · exact (plain_of_mem_keys key known).2 char inKey
    · -- Only the key must not hold an equals sign; between the two it is as plain as any other.
      rcases List.mem_cons.mp behind with rfl | inValue
      · decide
      · exact plain char inValue

/-- Nothing in the attributes of a session ends an attribute or is trimmed. -/
theorem plain_attributeTexts (session : Session) :
    ∀ text ∈ session.attributeTexts, text ≠ [] ∧ ∀ char ∈ text, Plain char := by
  have version := plain_attributeText "capsversion" (by simp [keys]) fun _ =>
    plain_of_mem_decimal FormatVersion.outOfBand.val
  have mtu := plain_attributeText "mtu" (by simp [keys]) fun _ => plain_of_mem_decimal session.mtu
  have clockRate := plain_attributeText "clock-rate" (by simp [keys]) fun _ =>
    plain_of_mem_decimal session.clockRate
  unfold attributeTexts
  cases session.descriptor with
  | none =>
      simp only [List.nil_append, List.forall_mem_cons]
      exact ⟨mtu, clockRate, List.forall_mem_nil _⟩
  | some text =>
      have caps := plain_attributeText "caps" (by simp [keys]) fun _ => plain_of_mem_caps text
      simp only [List.cons_append, List.nil_append, List.forall_mem_cons]
      exact ⟨caps, version, mtu, clockRate, List.forall_mem_nil _⟩

/-- The attributes of a session, read in order, say everything about it; a format is left as it was
where the session has none. -/
theorem applySegments_attributeTexts (start : Session) {session : Session}
    (mtu : session.mtu < limit64) (clockRate : session.clockRate < limit32) :
    start.applySegments session.attributeTexts =
      .ok { session with
        descriptor := (session.descriptor.map withoutNulls).or start.descriptor } := by
  unfold attributeTexts
  cases session.descriptor with
  | none =>
      simp only [List.nil_append, applySegments, applySegment_mtu _ mtu,
        applySegment_clockRate _ clockRate]
      rfl
  | some text =>
      simp only [List.cons_append, List.nil_append, applySegments, applySegment_caps,
        applySegment_capsVersion, applySegment_mtu _ mtu, applySegment_clockRate _ clockRate]
      rfl

/-- A session is read from its attributes without the null characters at the end of its format. -/
theorem ofAttributes_toAttributes (session : Session) (mtu : session.mtu < limit64)
    (clockRate : session.clockRate < limit32) :
    ofAttributes session.toAttributes = .ok session.stripped := by
  have nonempty : session.attributeTexts ≠ [] := by
    unfold attributeTexts
    simp
  rw [ofAttributes, toAttributes, String.toList_ofList,
    segments_intercalate nonempty session.plain_attributeTexts,
    applySegments_attributeTexts default mtu clockRate]
  simp [Except.mapError, stripped, default]

theorem stripped_stripped (session : Session) : session.stripped.stripped = session.stripped := by
  unfold stripped
  cases session.descriptor with
  | none => rfl
  | some text => simp

theorem stripped_eq_self_iff {session : Session} :
    session.stripped = session ↔
      ∀ text ∈ session.descriptor, text.toList.getLast? ≠ some '\x00' := by
  obtain ⟨descriptor, mtu, clockRate⟩ := session
  cases descriptor with
  | none => simp [stripped]
  | some text => simp [stripped, withoutNulls_eq_self_iff]

/-- What is read from the attributes of a session: its numbers, and its format without the null
characters at the end. A session without a format has none afterwards and an empty format stays,
nothing else is lost, and what was read comes back from its own attributes as it is. -/
structure Reread (session parsed : Session) : Prop where
  read : ofAttributes session.toAttributes = .ok parsed
  mtu : parsed.mtu = session.mtu
  clockRate : parsed.clockRate = session.clockRate
  descriptor : Option.Rel Stripped session.descriptor parsed.descriptor
  absent : parsed.descriptor = none ↔ session.descriptor = none
  empty : session.descriptor = some "" → parsed.descriptor = some ""
  same : parsed = session ↔ ∀ text ∈ session.descriptor, text.toList.getLast? ≠ some '\x00'
  again : ofAttributes parsed.toAttributes = .ok parsed

/-- Every session comes back from its attributes but for the null characters at the end of its
format. -/
theorem exists_reread (session : Session) (mtu : session.mtu < limit64)
    (clockRate : session.clockRate < limit32) : ∃ parsed, Reread session parsed := by
  use session.stripped
  constructor
  case read => exact ofAttributes_toAttributes session mtu clockRate
  case mtu => rfl
  case clockRate => rfl
  case descriptor =>
    unfold stripped
    cases session.descriptor with
    | none => exact .none
    | some text => exact .some (stripped_withoutNulls text)
  case absent => exact Option.map_eq_none_iff
  case empty =>
    intro empty
    rw [stripped, empty]
    rfl
  case same => exact stripped_eq_self_iff
  case again =>
    have once := ofAttributes_toAttributes session.stripped mtu clockRate
    rwa [stripped_stripped] at once

/-- At the bounds of both numbers, with a format that loses its end. -/
theorem exists_reread_at_bounds :
    ∃ parsed, Reread ⟨some "a\x00\x00", 0xFFFFFFFFFFFFFFFF, 0xFFFFFFFF⟩ parsed ∧
      parsed.descriptor = some "a" := by
  obtain ⟨parsed, reread⟩ :=
    exists_reread ⟨some "a\x00\x00", 0xFFFFFFFFFFFFFFFF, 0xFFFFFFFF⟩ (by decide) (by decide)
  have known := ofAttributes_toAttributes ⟨some "a\x00\x00", 0xFFFFFFFFFFFFFFFF, 0xFFFFFFFF⟩
    (by decide) (by decide)
  have letters : "a\x00\x00".toList = ['a', '\x00', '\x00'] := String.toList_ofList
  have kept : withoutNulls "a\x00\x00" = "a" := by
    rw [withoutNulls, letters]
    rfl
  rw [reread.read] at known
  refine ⟨parsed, reread, ?_⟩
  rw [Except.ok.inj known]
  exact congrArg some kept

end FrameLink.Session

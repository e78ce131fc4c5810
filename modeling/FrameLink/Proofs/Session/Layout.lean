import FrameLink.Proofs.Session.Attributes
import Mathlib.Data.List.Perm.Basic

/-!
# The layout of attributes does not count

What stands between two semicolons is a piece. Reading folds over the pieces (`ofAttributes_eq`),
and what one of them does is told by the attribute in it, or by its being blank. So blanks and
attributes that nobody knows change nothing, not even the fault (`applyPieces_of_noisy`); and a text
is read exactly if each piece is sound on its own, where the last value of each key holds
(`applyPieces_eq_ok_iff`), so that the order of pieces with different keys does not count.
-/

namespace FrameLink.Session

open FrameLink.Text (Blank isBlank limit32 limit64 trim)

/-! ## Pieces -/

/-- What stands between the semicolons of a text. -/
def pieces (text : String) : List (List Char) :=
  text.toList.splitOn ';'

/-- Pieces put together with semicolons between them. -/
def joined (pieces : List (List Char)) : String :=
  String.ofList (List.intercalate [';'] pieces)

/-- The attribute in a piece. Blanks around its key and its value do not count. -/
def attribute? (piece : List Char) : Option Attribute :=
  (splitOnce? '=' piece).map fun (key, value) => ⟨trim key, trim value⟩

theorem splitOnce?_of_not_mem {separator : Char} {text : List Char} (clear : separator ∉ text) :
    splitOnce? separator text = none := by
  induction text with
  | nil => rfl
  | cons char rest ih =>
      simp only [List.mem_cons, not_or] at clear
      rw [splitOnce?, if_neg (Ne.symm clear.1), ih clear.2]
      rfl

theorem attribute?_parts {key : List Char} (value : List Char) (clear : '=' ∉ key) :
    attribute? (key ++ '=' :: value) = some ⟨trim key, trim value⟩ := by
  rw [attribute?, splitOnce?_append value clear]
  rfl

theorem attribute?_of_not_mem {piece : List Char} (bare : '=' ∉ piece) :
    attribute? piece = none := by
  rw [attribute?, splitOnce?_of_not_mem bare]
  rfl

theorem not_mem_of_blank {char : Char} (solid : isBlank char = false) {piece : List Char}
    (blank : Blank piece) : char ∉ piece := by
  intro inside
  rw [blank char inside] at solid
  cases solid

/-! ## What a piece does -/

section

variable (session : Session)

/-- What a piece says about a session. -/
def applyPiece (piece : List Char) : Except Fault Session :=
  if (trim piece).isEmpty then .ok session else session.applySegment (trim piece)

theorem applyPiece_of_blank {piece : List Char} (blank : Blank piece) :
    session.applyPiece piece = .ok session := by
  rw [applyPiece, Text.trim_eq_nil_iff.mpr blank]
  rfl

/-- A piece without an equals sign is refused, unless it is blank. -/
theorem applyPiece_of_not_mem {piece : List Char} (notBlank : ¬Blank piece) (bare : '=' ∉ piece) :
    session.applyPiece piece = .error (.withoutValue (String.ofList (trim piece))) := by
  have trimmed : (trim piece).isEmpty = false := by
    rw [List.isEmpty_eq_false_iff]
    exact fun empty => notBlank (Text.trim_eq_nil_iff.mp empty)
  have clear : '=' ∉ trim piece := fun inside => bare (Text.mem_of_mem_trim inside)
  rw [applyPiece, trimmed, applySegment, Attribute.ofSegment, splitOnce?_of_not_mem clear]
  rfl

/-- A piece with an equals sign says what its attribute says. -/
theorem applyPiece_parts {key : List Char} (value : List Char) (clear : '=' ∉ key) :
    session.applyPiece (key ++ '=' :: value) = session.applyAttribute ⟨trim key, trim value⟩ := by
  have front : '=' ∉ key.dropWhile isBlank := fun inside =>
    clear ((List.dropWhile_sublist isBlank).mem inside)
  have solid : isBlank '=' = false := by decide
  have trimmed : (trim (key ++ '=' :: value)).isEmpty = false := by
    rw [Text.trim_append_cons solid, List.isEmpty_eq_false_iff]
    exact List.append_ne_nil_of_right_ne_nil _ (List.cons_ne_nil _ _)
  rw [applyPiece, trimmed, Text.trim_append_cons solid, applySegment, Attribute.ofSegment,
    splitOnce?_append _ front]
  simp only [Text.trim_dropWhile, Text.trim_trimEnd]
  rfl

/-- What pieces say about a session, one after the other. -/
def applyPieces (pieces : List (List Char)) : Except Fault Session :=
  pieces.foldlM applyPiece session

theorem applySegments_eq_applyPieces (texts : List (List Char)) :
    session.applySegments ((texts.map trim).filter (!·.isEmpty)) = session.applyPieces texts := by
  induction texts generalizing session with
  | nil => rfl
  | cons piece rest ih =>
      rw [List.map_cons, List.filter_cons, applyPieces, List.foldlM_cons, applyPiece]
      cases blank : (trim piece).isEmpty with
      | true => exact ih session
      | false =>
          rw [if_neg Bool.false_ne_true]
          show session.applySegments (trim piece :: _) = _
          rw [applySegments]
          cases session.applySegment (trim piece) with
          | error fault => rfl
          | ok after => exact ih after

end

/-! ## Noise -/

/-- A piece with blanks around it, or around the key and the value in it. -/
inductive Padded : List Char → List Char → Prop
  | whole {front piece back : List Char} (before : Blank front) (behind : Blank back) :
      Padded piece (front ++ piece ++ back)
  | parts {key value front back front' back' : List Char} (clear : '=' ∉ key)
      (before : Blank front) (behind : Blank back) (before' : Blank front')
      (behind' : Blank back') :
      Padded (key ++ '=' :: value) ((front ++ key ++ back) ++ '=' :: (front' ++ value ++ back'))

/-- Pieces with noise among them: blanks around what was there, blank pieces, and attributes with
keys that nobody knows. -/
inductive Noisy : List (List Char) → List (List Char) → Prop
  | nil : Noisy [] []
  | padded {piece other : List Char} {rest others : List (List Char)} (padding : Padded piece other)
      (behind : Noisy rest others) : Noisy (piece :: rest) (other :: others)
  | blank {other : List Char} {rest others : List (List Char)} (blank : Blank other)
      (behind : Noisy rest others) : Noisy rest (other :: others)
  | unknown {key value : List Char} {rest others : List (List Char)} (clear : '=' ∉ key)
      (unknown : String.ofList (trim key) ∉ keys) (inner : ';' ∉ key ∧ ';' ∉ value)
      (behind : Noisy rest others) : Noisy rest ((key ++ '=' :: value) :: others)

theorem applyPiece_of_padded {piece other : List Char} (padding : Padded piece other)
    (session : Session) : session.applyPiece other = session.applyPiece piece := by
  cases padding with
  | whole before behind => rw [applyPiece, Text.trim_around before _ behind, applyPiece]
  | @parts key value front back _ _ clear before behind before' behind' =>
      have solid : isBlank '=' = false := by decide
      have around : '=' ∉ front ++ key ++ back := by
        simp only [List.mem_append, not_or]
        exact ⟨⟨not_mem_of_blank solid before, clear⟩, not_mem_of_blank solid behind⟩
      rw [applyPiece_parts session _ around, applyPiece_parts session _ clear,
        Text.trim_around before _ behind, Text.trim_around before' _ behind']

/-- A key that nobody knows says nothing. -/
theorem applyAttribute_of_unknown {entry : Attribute} (unknown : String.ofList entry.key ∉ keys)
    (session : Session) : session.applyAttribute entry = .ok session := by
  have other : ∀ key ∈ keys, entry.key ≠ key.toList := by
    intro key known same
    rw [same, String.ofList_toList] at unknown
    exact unknown known
  rw [applyAttribute, if_neg (other "caps" (by simp [keys])),
    if_neg (other "capsversion" (by simp [keys])), if_neg (other "mtu" (by simp [keys])),
    if_neg (other "clock-rate" (by simp [keys]))]

/-- Noise does not change what pieces say, nor the fault where they say nothing sound. -/
theorem applyPieces_of_noisy {texts others : List (List Char)} (noisy : Noisy texts others)
    (session : Session) : session.applyPieces others = session.applyPieces texts := by
  induction noisy generalizing session with
  | nil => rfl
  | padded padding _ ih =>
      rw [applyPieces, applyPieces, List.foldlM_cons, List.foldlM_cons,
        applyPiece_of_padded padding]
      cases session.applyPiece _ with
      | error fault => rfl
      | ok after => exact ih after
  | blank blank _ ih =>
      rw [applyPieces, List.foldlM_cons, applyPiece_of_blank session blank]
      exact ih session
  | @unknown key value _ _ clear unknown _ _ ih =>
      rw [applyPieces, List.foldlM_cons, applyPiece_parts session value clear,
        applyAttribute_of_unknown unknown]
      exact ih session

/-! ## Values -/

/-- The value that a piece gives for a key. -/
def value? (key : String) (piece : List Char) : Option (List Char) :=
  match attribute? piece with
  | none => none
  | some entry => if entry.key = key.toList then some entry.value else none

/-- The values that pieces give for a key, in order. -/
def valuesOf (key : String) (texts : List (List Char)) : List (List Char) :=
  texts.filterMap (value? key)

/-- The session of the last values. A key without a value leaves its default. -/
def latest (texts : List (List Char)) : Session where
  descriptor := (valuesOf "caps" texts).getLast?.bind fun value => (readCaps value).toOption
  mtu := ((valuesOf "mtu" texts).getLast?.bind fun value =>
    (readNumber "mtu" limit64 value).toOption).getD default.mtu
  clockRate := ((valuesOf "clock-rate" texts).getLast?.bind fun value =>
    (readNumber "clock-rate" limit32 value).toOption).getD default.clockRate

/-- An attribute whose value can be read, where its key is known. -/
structure Attribute.Valid (entry : Attribute) : Prop where
  caps : entry.key = "caps".toList → ∃ text, readCaps entry.value = .ok text
  capsVersion : entry.key = "capsversion".toList → readCapsVersion entry.value = .ok ()
  mtu : entry.key = "mtu".toList → ∃ mtu, readNumber "mtu" limit64 entry.value = .ok mtu
  clockRate : entry.key = "clock-rate".toList →
    ∃ clockRate, readNumber "clock-rate" limit32 entry.value = .ok clockRate

/-- Which values are valid, told by the texts alone: a format is the Base64 of some text, its
version is 0, and the others are numbers that fit. -/
theorem Attribute.valid_iff {entry : Attribute} :
    entry.Valid ↔
      (entry.key = "caps".toList →
        ∃ text, entry.value = asciiText (Base64.encode (Utf8.encode text))) ∧
      (entry.key = "capsversion".toList → Text.Unsigned entry.value 0) ∧
      (entry.key = "mtu".toList → ∃ mtu < limit64, Text.Unsigned entry.value mtu) ∧
      (entry.key = "clock-rate".toList →
        ∃ clockRate < limit32, Text.Unsigned entry.value clockRate) := by
  have number (key : String) (limit : Nat) :
      (∃ number, readNumber key limit entry.value = .ok number) ↔
        ∃ number < limit, Text.Unsigned entry.value number := by
    simp only [readNumber_eq_ok_iff, and_comm]
  have format : (∃ text, readCaps entry.value = .ok text) ↔
      ∃ text, entry.value = asciiText (Base64.encode (Utf8.encode text)) := by
    constructor
    · rintro ⟨text, read⟩
      obtain ⟨whole, -, same⟩ := readCaps_eq_ok_iff.mp read
      exact ⟨whole, same⟩
    · rintro ⟨text, same⟩
      exact ⟨withoutNulls text, readCaps_eq_ok_iff.mpr ⟨text, stripped_withoutNulls text, same⟩⟩
  rw [← format, ← readCapsVersion_eq_ok_iff, ← number "mtu", ← number "clock-rate"]
  constructor
  · intro valid
    exact ⟨valid.caps, valid.capsVersion, valid.mtu, valid.clockRate⟩
  · rintro ⟨caps, capsVersion, mtu, clockRate⟩
    exact ⟨caps, capsVersion, mtu, clockRate⟩

/-- A piece that is sound on its own. -/
structure Sound (piece : List Char) : Prop where
  valued : ¬Blank piece → '=' ∈ piece
  valid : ∀ entry ∈ attribute? piece, entry.Valid

section

variable {texts : List (List Char)} {piece : List Char}

theorem valuesOf_concat (key : String) :
    valuesOf key (texts ++ [piece]) = valuesOf key texts ++ (value? key piece).toList := by
  rw [valuesOf, List.filterMap_append, valuesOf]
  cases value : value? key piece with
  | none => rw [List.filterMap_cons_none value]; rfl
  | some text => rw [List.filterMap_cons_some value]; rfl

theorem getLast?_valuesOf_concat (key : String) :
    (valuesOf key (texts ++ [piece])).getLast? =
      (value? key piece).or (valuesOf key texts).getLast? := by
  rw [valuesOf_concat, List.getLast?_append]
  cases value? key piece with
  | none => rfl
  | some text => rfl

theorem value?_of_none {key : String} (unread : attribute? piece = none) :
    value? key piece = none := by
  rw [value?, unread]

theorem value?_of_key {key : String} {entry : Attribute} (reads : attribute? piece = some entry)
    (same : entry.key = key.toList) : value? key piece = some entry.value := by
  simp only [value?, reads, same, if_true]

theorem value?_of_key_ne {key : String} {entry : Attribute} (reads : attribute? piece = some entry)
    (other : entry.key ≠ key.toList) : value? key piece = none := by
  simp only [value?, reads, if_neg other]

theorem latest_concat_of_none (unread : attribute? piece = none) :
    latest (texts ++ [piece]) = latest texts := by
  simp only [latest, getLast?_valuesOf_concat, value?_of_none unread, Option.none_or]

theorem key_ne {entry : Attribute} {key : String} (other : String)
    (same : entry.key = key.toList) (differ : key ≠ other) : entry.key ≠ other.toList :=
  fun too => differ (String.toList_inj.mp (same.symm.trans too))

/-- A value that can be read exactly if it is valid takes its place. -/
theorem map_eq_ok_iff {α : Type} {read : Except Fault α} {place : α → Session} {valid : Prop}
    {session placed : Session} (readable : valid ↔ ∃ value, read = .ok value)
    (places : ∀ value, read = .ok value → place value = placed) :
    read.map place = .ok session ↔ valid ∧ session = placed := by
  rw [readable]
  cases found : read with
  | error fault =>
      apply iff_of_false
      · intro same
        cases same
      · intro both
        obtain ⟨⟨value, same⟩, -⟩ := both
        cases same
  | ok value =>
      rw [Except.map, places value found]
      constructor
      · intro same
        exact ⟨⟨value, rfl⟩, (Except.ok.inj same).symm⟩
      · intro both
        rw [both.2]

/-- An attribute on top of others says what it says on its own, and takes the place of what was said
under its key before. -/
theorem applyAttribute_latest {entry : Attribute} (reads : attribute? piece = some entry)
    {session : Session} :
    (latest texts).applyAttribute entry = .ok session ↔
      entry.Valid ∧ session = latest (texts ++ [piece]) := by
  unfold applyAttribute
  split
  next caps =>
    have version := key_ne "capsversion" caps (by decide)
    have mtu := key_ne "mtu" caps (by decide)
    have clockRate := key_ne "clock-rate" caps (by decide)
    apply map_eq_ok_iff
    · exact ⟨fun valid => valid.caps caps, fun found =>
        ⟨fun _ => found, (absurd · version), (absurd · mtu), (absurd · clockRate)⟩⟩
    · intro text read
      simp only [latest, getLast?_valuesOf_concat, value?_of_key reads caps,
        value?_of_key_ne reads mtu, value?_of_key_ne reads clockRate, Option.none_or,
        Option.some_or, Option.bind_some, read, Except.toOption]
  next caps =>
    split
    next version =>
      have mtu := key_ne "mtu" version (by decide)
      have clockRate := key_ne "clock-rate" version (by decide)
      apply map_eq_ok_iff
      · exact ⟨fun valid => ⟨(), valid.capsVersion version⟩, fun found =>
          ⟨(absurd · caps), fun _ => found.choose_spec, (absurd · mtu), (absurd · clockRate)⟩⟩
      · intro _ _
        simp only [latest, getLast?_valuesOf_concat, value?_of_key_ne reads caps,
          value?_of_key_ne reads mtu, value?_of_key_ne reads clockRate, Option.none_or]
    next version =>
      split
      next mtu =>
        have clockRate := key_ne "clock-rate" mtu (by decide)
        apply map_eq_ok_iff
        · exact ⟨fun valid => valid.mtu mtu, fun found =>
            ⟨(absurd · caps), (absurd · version), fun _ => found, (absurd · clockRate)⟩⟩
        · intro number read
          simp only [latest, getLast?_valuesOf_concat, value?_of_key_ne reads caps,
            value?_of_key reads mtu, value?_of_key_ne reads clockRate, Option.none_or,
            Option.some_or, Option.bind_some, read, Except.toOption, Option.getD_some]
      next mtu =>
        split
        next clockRate =>
          apply map_eq_ok_iff
          · exact ⟨fun valid => valid.clockRate clockRate, fun found =>
              ⟨(absurd · caps), (absurd · version), (absurd · mtu), fun _ => found⟩⟩
          · intro number read
            simp only [latest, getLast?_valuesOf_concat, value?_of_key_ne reads caps,
              value?_of_key_ne reads mtu, value?_of_key reads clockRate, Option.none_or,
              Option.some_or, Option.bind_some, read, Except.toOption, Option.getD_some]
        next clockRate =>
          have valid : entry.Valid :=
            ⟨(absurd · caps), (absurd · version), (absurd · mtu), (absurd · clockRate)⟩
          have same : latest (texts ++ [piece]) = latest texts := by
            simp only [latest, getLast?_valuesOf_concat, value?_of_key_ne reads caps,
              value?_of_key_ne reads mtu, value?_of_key_ne reads clockRate, Option.none_or]
          rw [and_iff_right valid, same, Except.ok.injEq]
          exact eq_comm

end

/-- A piece on top of others says something exactly if it is sound on its own. -/
theorem applyPiece_latest {texts : List (List Char)} {piece : List Char} {session : Session} :
    (latest texts).applyPiece piece = .ok session ↔
      Sound piece ∧ session = latest (texts ++ [piece]) := by
  by_cases valued : '=' ∈ piece
  · obtain ⟨key, value, rfl, clear⟩ := List.eq_append_cons_of_mem valued
    have reads := attribute?_parts value clear
    rw [applyPiece_parts _ value clear, applyAttribute_latest reads]
    apply and_congr_left
    intro _
    constructor
    · intro valid
      refine ⟨fun _ => valued, ?_⟩
      rw [reads]
      exact fun entry same => Option.some.inj same ▸ valid
    · intro sound
      exact sound.valid _ reads
  · have unread := attribute?_of_not_mem valued
    by_cases blank : Blank piece
    · have sound : Sound piece := by
        refine ⟨fun other => absurd blank other, ?_⟩
        rw [unread]
        intro entry impossible
        cases impossible
      rw [applyPiece_of_blank _ blank, latest_concat_of_none unread, and_iff_right sound,
        Except.ok.injEq]
      exact eq_comm
    · rw [applyPiece_of_not_mem _ blank valued]
      apply iff_of_false
      · intro same
        cases same
      · exact fun both => valued (both.1.valued blank)

theorem applyPieces_concat (session : Session) (texts : List (List Char)) (piece : List Char) :
    session.applyPieces (texts ++ [piece]) =
      match session.applyPieces texts with
      | .error fault => .error fault
      | .ok after => after.applyPiece piece := by
  rw [applyPieces, List.foldlM_append, applyPieces]
  cases List.foldlM applyPiece session texts with
  | error fault => rfl
  | ok after => exact bind_pure (after.applyPiece piece)

/-- Pieces are read exactly if each of them is sound on its own, and then the last values hold. -/
theorem applyPieces_eq_ok_iff {texts : List (List Char)} {session : Session} :
    default.applyPieces texts = .ok session ↔
      (∀ piece ∈ texts, Sound piece) ∧ session = latest texts := by
  induction texts using List.reverseRecOn generalizing session with
  | nil =>
      rw [and_iff_right (List.forall_mem_nil _)]
      show Except.ok default = Except.ok session ↔ _
      rw [Except.ok.injEq]
      exact eq_comm
  | append_singleton texts piece ih =>
      rw [applyPieces_concat, List.forall_mem_append, List.forall_mem_singleton, and_assoc]
      cases read : default.applyPieces texts with
      | error fault =>
          apply iff_of_false
          · intro same
            cases same
          · intro both
            have front := ih.mpr ⟨both.1, rfl⟩
            rw [read] at front
            cases front
      | ok before =>
          obtain ⟨all, rfl⟩ := ih.mp read
          rw [and_iff_right all]
          exact applyPiece_latest

/-! ## Texts -/

theorem not_mem_of_mem_splitOn {separator : Char} {text piece : List Char}
    (inside : piece ∈ text.splitOn separator) : separator ∉ piece := by
  induction text generalizing piece with
  | nil =>
      rw [List.splitOn_nil, List.mem_singleton] at inside
      rw [inside]
      exact List.not_mem_nil
  | cons char rest ih =>
      rw [List.splitOn_cons_eq_if_modifyHead] at inside
      split at inside
      next =>
        rcases List.mem_cons.mp inside with rfl | behind
        · exact List.not_mem_nil
        · exact ih behind
      next other =>
        cases split : rest.splitOn separator with
        | nil => exact absurd split (List.splitOn_ne_nil separator rest)
        | cons first others =>
            rw [split] at inside ih
            rcases List.mem_cons.mp inside with rfl | behind
            · have clear := ih List.mem_cons_self
              intro within
              rcases List.mem_cons.mp within with rfl | later
              · exact other (beq_self_eq_true _)
              · exact clear later
            · exact ih (List.mem_cons_of_mem _ behind)

theorem pieces_ne_nil (text : String) : pieces text ≠ [] :=
  List.splitOn_ne_nil ';' text.toList

theorem joined_pieces (text : String) : joined (pieces text) = text := by
  rw [joined, pieces, List.intercalate_splitOn, String.ofList_toList]

theorem pieces_joined {texts : List (List Char)} (nonempty : texts ≠ [])
    (inner : ∀ text ∈ texts, ';' ∉ text) : pieces (joined texts) = texts := by
  rw [pieces, joined, String.toList_ofList, List.splitOn_intercalate ';' inner nonempty]

/-- Reading a text is reading its pieces in order. -/
theorem ofAttributes_eq (text : String) :
    ofAttributes text = (default.applyPieces (pieces text)).mapError .invalidSession := by
  rw [ofAttributes, segments, applySegments_eq_applyPieces, pieces]

theorem ofAttributes_eq_ok_iff {text : String} {session : Session} :
    ofAttributes text = .ok session ↔
      (∀ piece ∈ pieces text, Sound piece) ∧ session = latest (pieces text) := by
  rw [ofAttributes_eq, ← applyPieces_eq_ok_iff]
  cases default.applyPieces (pieces text) with
  | error fault =>
      apply iff_of_false
      · intro same
        cases same
      · intro same
        cases same
  | ok after => rw [Except.mapError, Except.ok.injEq, Except.ok.injEq]

/-- Noise holds no semicolon, so it stays between those that are there. -/
theorem inner_of_padded {piece other : List Char} (padding : Padded piece other)
    (inner : ';' ∉ piece) : ';' ∉ other := by
  have solid : isBlank ';' = false := by decide
  cases padding with
  | whole before behind =>
      simp only [List.mem_append, not_or]
      exact ⟨⟨not_mem_of_blank solid before, inner⟩, not_mem_of_blank solid behind⟩
  | parts _ before behind before' behind' =>
      simp only [List.mem_append, List.mem_cons, not_or] at inner ⊢
      exact ⟨⟨⟨not_mem_of_blank solid before, inner.1⟩, not_mem_of_blank solid behind⟩, inner.2.1,
        ⟨not_mem_of_blank solid before', inner.2.2⟩, not_mem_of_blank solid behind'⟩

theorem inner_of_noisy {texts others : List (List Char)} (noisy : Noisy texts others)
    (inner : ∀ piece ∈ texts, ';' ∉ piece) : ∀ other ∈ others, ';' ∉ other := by
  induction noisy with
  | nil => exact inner
  | padded padding _ ih =>
      obtain ⟨here, behind⟩ := List.forall_mem_cons.mp inner
      exact List.forall_mem_cons.mpr ⟨inner_of_padded padding here, ih behind⟩
  | blank blank _ ih =>
      exact List.forall_mem_cons.mpr ⟨not_mem_of_blank (by decide) blank, ih inner⟩
  | unknown _ _ own _ ih =>
      refine List.forall_mem_cons.mpr ⟨?_, ih inner⟩
      simp only [List.mem_append, List.mem_cons, not_or]
      exact ⟨own.1, by decide, own.2⟩

theorem ne_nil_of_noisy {texts others : List (List Char)} (noisy : Noisy texts others)
    (nonempty : texts ≠ []) : others ≠ [] := by
  cases noisy with
  | nil => exact nonempty
  | padded => exact List.cons_ne_nil _ _
  | blank => exact List.cons_ne_nil _ _
  | unknown => exact List.cons_ne_nil _ _

/-- A text with noise in it reads as the text without it. -/
theorem ofAttributes_of_noisy {text : String} {others : List (List Char)}
    (noisy : Noisy (pieces text) others) : ofAttributes (joined others) = ofAttributes text := by
  have inner : ∀ other ∈ others, ';' ∉ other :=
    inner_of_noisy noisy fun _ => not_mem_of_mem_splitOn
  have same := pieces_joined (ne_nil_of_noisy noisy (pieces_ne_nil text)) inner
  rw [ofAttributes_eq, ofAttributes_eq, same, applyPieces_of_noisy noisy]

/-- Where a key has one value at most, the order of the pieces does not tell which one. -/
theorem valuesOf_of_perm {key : String} {texts others : List (List Char)}
    (perm : others.Perm texts) (single : (valuesOf key texts).length ≤ 1) :
    valuesOf key others = valuesOf key texts := by
  have values : (valuesOf key others).Perm (valuesOf key texts) := perm.filterMap (value? key)
  generalize valuesOf key texts = given at values single
  match given, single with
  | [], _ => exact List.perm_nil.mp values
  | [value], _ => exact List.perm_singleton.mp values

theorem latest_of_perm {texts others : List (List Char)} (perm : others.Perm texts)
    (single : ∀ key ∈ keys, (valuesOf key texts).length ≤ 1) : latest others = latest texts := by
  have caps := valuesOf_of_perm perm (single "caps" (by simp [keys]))
  have mtu := valuesOf_of_perm perm (single "mtu" (by simp [keys]))
  have clockRate := valuesOf_of_perm perm (single "clock-rate" (by simp [keys]))
  rw [latest, latest, caps, mtu, clockRate]

/-- Pieces in another order read as the same session, or as none. -/
theorem toOption_of_perm {text : String} {others : List (List Char)}
    (perm : others.Perm (pieces text))
    (single : ∀ key ∈ keys, (valuesOf key (pieces text)).length ≤ 1) :
    (ofAttributes (joined others)).toOption = (ofAttributes text).toOption := by
  have nonempty : others ≠ [] := fun empty => pieces_ne_nil text (List.nil_perm.mp (empty ▸ perm))
  have inner : ∀ other ∈ others, ';' ∉ other := fun other inside =>
    not_mem_of_mem_splitOn (perm.mem_iff.mp inside)
  have sound : (∀ piece ∈ others, Sound piece) ↔ ∀ piece ∈ pieces text, Sound piece :=
    forall_congr' fun piece => imp_congr_left perm.mem_iff
  have same : ∀ session, ofAttributes (joined others) = .ok session ↔
      ofAttributes text = .ok session := by
    intro session
    rw [ofAttributes_eq_ok_iff, ofAttributes_eq_ok_iff, pieces_joined nonempty inner, sound,
      latest_of_perm perm single]
  cases read : ofAttributes text with
  | ok session => rw [(same session).mpr read]
  | error fault =>
      cases other : ofAttributes (joined others) with
      | error => rfl
      | ok session =>
          rw [(same session).mp other] at read
          cases read

/-- The layout of a text of attributes does not count. Blanks and attributes that nobody knows,
wherever they are put in, change neither the session nor the fault. Where no known key has two
values, the order of the pieces changes neither whether the text is read nor the session. And a text
is read exactly if every piece that is not blank has an equals sign and every known value can be
read on its own, and as the session of the last value of each key. -/
theorem ofAttributes_layout (text : String) :
    joined (pieces text) = text ∧
      (∀ others, Noisy (pieces text) others →
        ofAttributes (joined others) = ofAttributes text) ∧
      (∀ others, others.Perm (pieces text) →
        (∀ key ∈ keys, (valuesOf key (pieces text)).length ≤ 1) →
        (ofAttributes (joined others)).toOption = (ofAttributes text).toOption) ∧
      ∀ session, ofAttributes text = .ok session ↔
        (∀ piece ∈ pieces text, Sound piece) ∧ session = latest (pieces text) :=
  ⟨joined_pieces text, fun _ => ofAttributes_of_noisy, fun _ => toOption_of_perm,
    fun _ => ofAttributes_eq_ok_iff⟩

/-- A blank piece, an unknown attribute with two equals signs and blanks of three kinds are put in;
and the two attributes change places. -/
theorem ofAttributes_layout_scattered :
    ofAttributes (joined [[' '], ['x', '=', '1', '=', '2'],
        ['\u3000', 'm', 't', 'u', ' ', '=', '\t', '9', '0', '0'],
        ['c', 'a', 'p', 's', '=', 'Y', 'Q', '=', '=']]) = ofAttributes "mtu=900;caps=YQ==" ∧
      (ofAttributes (joined [['c', 'a', 'p', 's', '=', 'Y', 'Q', '=', '='],
        ['m', 't', 'u', '=', '9', '0', '0']])).toOption =
        (ofAttributes "mtu=900;caps=YQ==").toOption := by
  obtain ⟨-, noise, order, -⟩ := ofAttributes_layout "mtu=900;caps=YQ=="
  have cut : pieces "mtu=900;caps=YQ==" =
      [['m', 't', 'u', '=', '9', '0', '0'], ['c', 'a', 'p', 's', '=', 'Y', 'Q', '=', '=']] := by
    cbv
  rw [cut] at noise order
  constructor
  · apply noise
    have padded : Padded ['m', 't', 'u', '=', '9', '0', '0']
        ['\u3000', 'm', 't', 'u', ' ', '=', '\t', '9', '0', '0'] :=
      @Padded.parts ['m', 't', 'u'] ['9', '0', '0'] ['\u3000'] [' '] ['\t'] [] (by decide)
        (by decide) (by decide) (by decide) (by decide)
    have same : Padded ['c', 'a', 'p', 's', '=', 'Y', 'Q', '=', '=']
        ['c', 'a', 'p', 's', '=', 'Y', 'Q', '=', '='] :=
      @Padded.whole [] _ [] (by decide) (by decide)
    have unknown : String.ofList (trim ['x']) ∉ keys := by decide +kernel
    exact .blank (by decide) (@Noisy.unknown ['x'] ['1', '=', '2'] _ _ (by decide) unknown
      (by decide) (.padded padded (.padded same .nil)))
  · exact order _ (List.Perm.swap _ _ _) (by decide)

end FrameLink.Session

import FrameLink.Proofs.Encoding.Tokens
import FrameLink.Session.Json
import Mathlib.Data.List.Perm.Basic

/-!
# A session comes back from its JSON text

The members of a session are read in whatever order they stand, with any blanks between the tokens:
after each of them the draft holds exactly the members that have been read (`part`), so at the end
of the object it holds all that the session says (`ofJson_of_spaced`). The text that is written is
one of these texts.
-/

namespace FrameLink.Session

open FrameLink.Json (Member Spaced Token memberSpellings membersSpellings numeralOf
  objectSpellings scan scan_of_spaced)
open FrameLink.Text (decimal limit32 limit64)

/-! ## Members -/

/-- The member of a session in a field. -/
def member (session : Session) : Field → Member
  | .descriptor => ⟨Field.descriptor.name, Json.stringText (session.descriptor.getD "")⟩
  | .mtu => ⟨Field.mtu.name, decimal session.mtu⟩
  | .clockRate => ⟨Field.clockRate.name, decimal session.clockRate⟩

/-- The fields in which a session has a member. -/
def fields (session : Session) : List Field :=
  (match session.descriptor with
    | none => []
    | some _ => [.descriptor]) ++ [.mtu, .clockRate]

theorem members_eq (session : Session) : session.members = session.fields.map session.member := by
  unfold members fields member
  cases session.descriptor with
  | none => rfl
  | some text => rfl

theorem nodup_fields (session : Session) : session.fields.Nodup := by
  unfold fields
  cases session.descriptor with
  | none => decide
  | some text =>
      show [Field.descriptor, .mtu, .clockRate].Nodup
      decide

theorem ofName?_name (field : Field) : Field.ofName? field.name.toList = some field := by
  cases field with
  | descriptor => decide
  | mtu => decide
  | clockRate => decide

/-! ## Drafts -/

/-- What is known of a session once some of its fields have been read. -/
def part (session : Session) (known : List Field) : Draft where
  descriptor := if .descriptor ∈ known then some session.descriptor else none
  mtu := if .mtu ∈ known then some session.mtu else none
  clockRate := if .clockRate ∈ known then some session.clockRate else none

theorem has_part (session : Session) (known : List Field) (field : Field) :
    (session.part known).has field = decide (field ∈ known) := by
  cases field with
  | descriptor => by_cases inside : Field.descriptor ∈ known <;> simp [part, Draft.has, inside]
  | mtu => by_cases inside : Field.mtu ∈ known <;> simp [part, Draft.has, inside]
  | clockRate => by_cases inside : Field.clockRate ∈ known <;> simp [part, Draft.has, inside]

/-- Once every field has been read, nothing of the session is missing. -/
theorem session_part {session : Session} {known : List Field}
    (all : ∀ field ∈ session.fields, field ∈ known) : (session.part known).session = session := by
  obtain ⟨descriptor, mtu, clockRate⟩ := session
  have mtuKnown : Field.mtu ∈ known := all _ (by simp [fields])
  have rateKnown : Field.clockRate ∈ known := all _ (by simp [fields])
  cases descriptor with
  | none => by_cases inside : Field.descriptor ∈ known <;>
      simp [part, Draft.session, default, mtuKnown, rateKnown, inside]
  | some text =>
      have inside : Field.descriptor ∈ known := all _ (by simp [fields])
      simp [part, Draft.session, mtuKnown, rateKnown, inside]

/-! ## Reading values -/

/-- The value of a member is one token, which is read as what the session says in that field. -/
theorem exists_value {session : Session} (mtu : session.mtu < limit64)
    (clockRate : session.clockRate < limit32) {field : Field} (inside : field ∈ session.fields) :
    ∃ token, (∀ behind, Json.EndsNumber behind →
        scan ((session.member field).value ++ behind) = token :: scan behind) ∧
      ∀ known rest, (session.part known).read field (token :: rest) =
        .ok (session.part (field :: known), rest) := by
  cases field with
  | descriptor =>
      cases format : session.descriptor with
      | none => simp [fields, format] at inside
      | some text =>
          obtain ⟨pieces, stand, scanned⟩ := Json.scan_string text
          refine ⟨.string pieces, ?_, ?_⟩
          · intro behind _
            rw [member, format]
            exact scanned behind
          · intro known rest
            simp [Draft.read, readDescriptor, stand, Draft.put, part, format]
  | mtu =>
      refine ⟨.number (numeralOf session.mtu), ?_, ?_⟩
      · intro behind ends
        exact Json.scan_decimal session.mtu ends
      · intro known rest
        simp [Draft.read, readNatural, Json.value?_numeralOf mtu, mtu, Draft.put, part]
  | clockRate =>
      have small : session.clockRate < limit64 := Nat.lt_trans clockRate (by decide)
      refine ⟨.number (numeralOf session.clockRate), ?_, ?_⟩
      · intro behind ends
        exact Json.scan_decimal session.clockRate ends
      · intro known rest
        simp [Draft.read, readNatural, Json.value?_numeralOf small, clockRate, Draft.put, part]

/-! ## Reading members -/

/-- A member that has not been read before is read, and then what stands behind it. -/
theorem readMembers_member {draft : Draft} {field : Field} {pieces : List Json.Piece}
    (name : Json.text? pieces = some field.name.toList) (unread : draft.has field = false)
    (tokens : List Token) :
    readMembers draft (.string pieces :: .colon :: tokens) =
      match draft.read field tokens with
      | .error fault => .error fault
      | .ok (draft, .comma :: rest) => readMembers draft rest
      | .ok (draft, .closeBrace :: rest) => .ok (draft, rest)
      | .ok _ => .error .malformed := by
  have same : readMember draft (Field.ofName? field.name.toList) tokens =
      draft.read field tokens := by
    rw [ofName?_name, readMember]
  rw [readMembers]
  simp only [name, ofName?_name, Option.filter_some, unread, Bool.false_eq_true, if_false]
  rw [← same]
  split
  next read => rw [read]
  next read => rw [read]
  next read => rw [read]
  next noComma noBrace read =>
    rw [read]
    split
    next impossible => cases impossible
    next found => exact absurd (Except.ok.inj found) (noComma _ _)
    next found => exact absurd (Except.ok.inj found) (noBrace _ _)
    next => rfl

/-- The name, the colon and the value of a member are read, where a comma or a brace is behind. -/
theorem exists_member {session : Session} (mtu : session.mtu < limit64)
    (clockRate : session.clockRate < limit32) {field : Field} (inside : field ∈ session.fields)
    {mark : Char} (marks : mark = ',' ∨ mark = '\x7d') {rest : List (List Char)}
    {text : List Char}
    (spaced : Spaced (memberSpellings (session.member field) ++ [mark] :: rest) text) :
    ∃ pieces token behind, Spaced ([mark] :: rest) behind ∧
      scan text = .string pieces :: .colon :: token :: scan behind ∧
      Json.text? pieces = some field.name.toList ∧
      ∀ known tokens, (session.part known).read field (token :: tokens) =
        .ok (session.part (field :: known), tokens) := by
  obtain ⟨pieces, stand, scanned⟩ := Json.scan_string field.name
  obtain ⟨token, value, read⟩ := exists_value mtu clockRate inside
  have named : (session.member field).name = field.name := by
    cases field with
    | descriptor => rfl
    | mtu => rfl
    | clockRate => rfl
  obtain ⟨first, spaced, scanName⟩ := scan_of_spaced spaced fun behind _ =>
    named ▸ scanned behind
  obtain ⟨second, spaced, scanColon⟩ := scan_of_spaced spaced fun behind _ =>
    Json.scan_token (by decide) rfl Token.noConfusion
  obtain ⟨third, spaced, scanValue⟩ := scan_of_spaced spaced fun behind spaced => by
    apply value
    rcases marks with rfl | rfl
    · exact Json.endsNumber_of_spaced (by decide) spaced
    · exact Json.endsNumber_of_spaced (by decide) spaced
  refine ⟨pieces, token, third, spaced, ?_, stand, read⟩
  rw [scanName, scanColon, scanValue]

/-- Members that have not been read before are read up to the brace behind them. -/
theorem readMembers_of_spaced {session : Session} (mtu : session.mtu < limit64)
    (clockRate : session.clockRate < limit32) {field : Field} {others known : List Field}
    (inside : ∀ other ∈ field :: others, other ∈ session.fields)
    (unread : ∀ other ∈ field :: others, other ∉ known) (distinct : (field :: others).Nodup)
    {text : List Char}
    (spaced : Spaced (membersSpellings ((field :: others).map session.member)) text) :
    readMembers (session.part known) (scan text) =
      .ok (session.part ((field :: others).reverse ++ known), []) := by
  have new : (session.part known).has field = false := by
    rw [has_part, decide_eq_false (unread field List.mem_cons_self)]
  induction others generalizing field known text with
  | nil =>
      rw [List.map_singleton, Json.membersSpellings_singleton] at spaced
      obtain ⟨pieces, token, behind, spaced, scanned, stand, read⟩ :=
        exists_member mtu clockRate (inside field List.mem_cons_self) (.inr rfl) spaced
      obtain ⟨rest, spaced, scanBrace⟩ := scan_of_spaced spaced fun behind _ =>
        Json.scan_token (by decide) rfl Token.noConfusion
      rw [scanned, readMembers_member stand new, read, scanBrace, Json.scan_of_spaced_nil spaced]
      rfl
  | cons next others ih =>
      rw [List.map_cons, List.map_cons, Json.membersSpellings_cons_cons, ← List.map_cons] at spaced
      obtain ⟨pieces, token, behind, spaced, scanned, stand, read⟩ :=
        exists_member mtu clockRate (inside field List.mem_cons_self) (.inl rfl) spaced
      obtain ⟨rest, spaced, scanComma⟩ := scan_of_spaced spaced fun behind _ =>
        Json.scan_token (by decide) rfl Token.noConfusion
      obtain ⟨single, distinct⟩ := List.nodup_cons.mp distinct
      have unread' : ∀ other ∈ next :: others, other ∉ field :: known := by
        intro other later
        rw [List.mem_cons, not_or]
        constructor
        · rintro rfl
          exact single later
        · exact unread other (List.mem_cons_of_mem _ later)
      have behind := ih (fun other later => inside other (List.mem_cons_of_mem _ later)) unread'
        distinct spaced (by rw [has_part, decide_eq_false (unread' next List.mem_cons_self)])
      rw [scanned, readMembers_member stand new, read, scanComma]
      simp only [behind, List.reverse_cons, List.append_assoc, List.cons_append, List.nil_append]

/-! ## Sessions -/

/-- Members that can be read make an object. -/
theorem readDraft_of_readMembers {tokens : List Token} {draft : Draft} {rest : List Token}
    (read : readMembers .empty tokens = .ok (draft, rest)) :
    readDraft (.openBrace :: tokens) = .ok (draft, rest) := by
  rw [readDraft]
  · exact read
  · intro behind empty
    simp [empty, readMembers] at read

/-- Members in another order are those of the fields in another order. -/
theorem exists_order {session : Session} {members : List Member}
    (perm : members.Perm session.members) :
    ∃ order : List Field, order.Perm session.fields ∧ members = order.map session.member := by
  rw [members_eq] at perm
  obtain ⟨order, same, perm⟩ :=
    (congrFun₂ (List.eq_map_comp_perm session.member) members session.fields).mpr perm
  exact ⟨order, perm, same⟩

/-- A session is read from any text that holds its members, in any order and with any gaps. -/
theorem ofJson_of_spaced {session : Session} (mtu : session.mtu < limit64)
    (clockRate : session.clockRate < limit32) {members : List Member}
    (perm : members.Perm session.members) {text : String}
    (spaced : Spaced (objectSpellings members) text.toList) : ofJson text = .ok session := by
  obtain ⟨order, same, rfl⟩ := exists_order perm
  obtain ⟨behind, spaced, scanBrace⟩ := scan_of_spaced spaced fun behind _ =>
    Json.scan_token (by decide) rfl Token.noConfusion
  cases order with
  | nil =>
      have size : .mtu ∈ session.fields := by simp [fields]
      exact absurd (same.mem_iff.mpr size) List.not_mem_nil
  | cons field others =>
      have members := readMembers_of_spaced mtu clockRate (fun _ => same.mem_iff.mp)
        (fun _ _ => List.not_mem_nil) (same.nodup_iff.mpr session.nodup_fields) spaced
      have empty : session.part [] = .empty := rfl
      have all : ∀ other ∈ session.fields, other ∈ (field :: others).reverse ++ [] := by
        intro other inside
        rw [List.append_nil, List.mem_reverse]
        exact same.mem_iff.mpr inside
      rw [ofJson, ofTokens, scanBrace, readDraft_of_readMembers (empty ▸ members)]
      simp only [session_part all, Except.mapError]

/-- A session comes back from its JSON text, and from any other text that holds the same members in
whatever order and with any blanks between the tokens; the text that is written is one of these. No
other session has the same text, and no descriptor is not the same as an empty one. -/
theorem ofJson_toJson (session : Session) (mtu : session.mtu < limit64)
    (clockRate : session.clockRate < limit32) :
    ofJson session.toJson = .ok session ∧
      Spaced (objectSpellings session.members) session.toJson.toList ∧
      (∀ members, members.Perm session.members → ∀ text : String,
        Spaced (objectSpellings members) text.toList → ofJson text = .ok session) ∧
      ofJson { session with descriptor := none }.toJson ≠
        ofJson { session with descriptor := some "" }.toJson := by
  have written : ∀ session : Session,
      Spaced (objectSpellings session.members) session.toJson.toList := by
    intro session
    rw [toJson, String.toList_ofList]
    exact Json.spaced_prettyObject session.members
  have read : ∀ session : Session, session.mtu < limit64 → session.clockRate < limit32 →
      ofJson session.toJson = .ok session := fun session mtu clockRate =>
    ofJson_of_spaced mtu clockRate (.refl _) (written session)
  refine ⟨read session mtu clockRate, written session, ?_, ?_⟩
  · intro members perm text spaced
    exact ofJson_of_spaced mtu clockRate perm spaced
  · rw [read { session with descriptor := none } mtu clockRate,
      read { session with descriptor := some "" } mtu clockRate]
    simp

/-- At the bounds of both numbers, with members in another order, blanks of all four kinds, and a
descriptor of a quote, a backslash, a control, a character beyond 16 bits and a null at its end. -/
theorem ofJson_toJson_reversed :
    ofJson ("\t\x7b\"clock_rate\" :4294967295\n,\"mtu\":18446744073709551615, \"descriptor\":\r" ++
        "\"\\\"\\\\\\u001f😀\\u0000\"\x7d\n") =
      .ok ⟨some "\"\\\x1f😀\x00", 0xFFFFFFFFFFFFFFFF, 0xFFFFFFFF⟩ := by
  obtain ⟨-, -, scattered, -⟩ :=
    ofJson_toJson ⟨some "\"\\\x1f😀\x00", 0xFFFFFFFFFFFFFFFF, 0xFFFFFFFF⟩ (by decide) (by decide)
  apply scattered _ (List.reverse_perm _)
  have empty : Json.Gap [] := List.forall_mem_nil _
  have first : Spaced [['\x7b']] _ := @Spaced.cons ['\t'] _ _ _ (by decide) (.nil empty)
  have comma : Spaced [[',']] _ := .cons empty (.nil empty)
  have last : Spaced [['\x7d']] _ := .cons empty (@Spaced.nil ['\n'] (by decide))
  have rate : Spaced (memberSpellings ⟨"clock_rate", decimal 0xFFFFFFFF⟩) _ :=
    .cons empty (@Spaced.cons [' '] _ _ _ (by decide)
      (.cons empty (@Spaced.nil ['\n'] (by decide))))
  have size : Spaced (memberSpellings ⟨"mtu", decimal 0xFFFFFFFFFFFFFFFF⟩) _ :=
    .cons empty (.cons empty (.cons empty (.nil empty)))
  have text : Spaced (memberSpellings ⟨"descriptor", Json.stringText "\"\\\x1f😀\x00"⟩) _ :=
    @Spaced.cons [' '] _ _ _ (by decide) (.cons empty
      (@Spaced.cons ['\r'] _ _ _ (by decide) (.nil empty)))
  convert first.append (rate.append (comma.append (size.append (comma.append (text.append last)))))
  · rfl
  · cbv

end FrameLink.Session

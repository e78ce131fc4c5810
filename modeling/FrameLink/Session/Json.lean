import FrameLink.Json.Printer
import FrameLink.Json.Skip
import FrameLink.Session.Basic

/-!
# Sessions as JSON

A session as an object with the members `descriptor`, `mtu` and `clock_rate`, each of which may be
missing; other members are passed over. An array of the three values in this order is read as well.
A reader objects to the first thing that is wrong in the order of the text.
-/

namespace FrameLink.Session

open FrameLink.Json (Token Member)
open FrameLink.Text (limit32 limit64)

/-! ## Writing -/

/-- The members of a session, a missing descriptor left out. -/
def members (session : Session) : List Member :=
  (match session.descriptor with
    | none => []
    | some text => [⟨Field.descriptor.name, Json.stringText text⟩]) ++ [
    ⟨Field.mtu.name, Text.decimal session.mtu⟩,
    ⟨Field.clockRate.name, Text.decimal session.clockRate⟩]

/-- A session as a JSON object. -/
def toJson (session : Session) : String :=
  String.ofList (Json.prettyObject session.members)

/-! ## Reading values -/

/-- What a token shows of the value that it starts, where it starts one. -/
def Found.ofToken? : Token → Option Found
  | .null => some .null
  | .bool value => some (.bool value)
  | .number numeral =>
      numeral.value?.map fun
        | .natural value => .natural value
        | .negative magnitude => .negative magnitude
        | .float below magnitude => .float below magnitude
  | .string pieces => (Json.text? pieces).map fun text => .string (String.ofList text)
  | .openBracket => some .sequence
  | .openBrace => some .map
  | _ => none

/-- The objection to a token that starts no value of the wanted kind. -/
def unexpected (expected : Expected) : List Token → JsonFault
  | [] => .malformed
  | token :: _ =>
      match Found.ofToken? token with
      | none => .malformed
      | some found => .wrongType found expected

/-- Reads a descriptor, or a null in the place of one. -/
def readDescriptor : List Token → Except JsonFault (Option String × List Token)
  | .null :: rest => .ok (none, rest)
  | .string pieces :: rest =>
      match Json.text? pieces with
      | none => .error .malformed
      | some text => .ok (some (String.ofList text), rest)
  | tokens => .error (unexpected .text tokens)

/-- Reads an unsigned number below a limit. -/
def readNatural (limit : Nat) (expected : Expected) :
    List Token → Except JsonFault (Nat × List Token)
  | .number numeral :: rest =>
      match numeral.value? with
      | none => .error .malformed
      | some (.natural value) =>
          if value < limit then .ok (value, rest)
          else .error (.wrongValue (.natural value) expected)
      | some (.negative magnitude) => .error (.wrongValue (.negative magnitude) expected)
      | some (.float below magnitude) => .error (.wrongType (.float below magnitude) expected)
  | tokens => .error (unexpected expected tokens)

/-! ## Reading members -/

/-- The members that have been read so far. -/
structure Draft where
  descriptor : Option (Option String)
  mtu : Option Nat
  clockRate : Option Nat
  deriving DecidableEq, Repr

namespace Draft

/-- No member read yet. -/
def empty : Draft := ⟨none, none, none⟩

/-- Whether a member has been read. -/
def has (draft : Draft) : Field → Bool
  | .descriptor => draft.descriptor.isSome
  | .mtu => draft.mtu.isSome
  | .clockRate => draft.clockRate.isSome

/-- Puts a value that was read in its place. -/
def put {α : Type} (place : α → Draft) :
    Except JsonFault (α × List Token) → Except JsonFault (Draft × List Token)
  | .error fault => .error fault
  | .ok (value, rest) => .ok (place value, rest)

/-- Reads the value of a member. -/
def read (draft : Draft) (field : Field) (tokens : List Token) :
    Except JsonFault (Draft × List Token) :=
  match field with
  | .descriptor =>
      put (fun value => { draft with descriptor := some value }) (readDescriptor tokens)
  | .mtu => put (fun value => { draft with mtu := some value }) (readNatural limit64 .size tokens)
  | .clockRate =>
      put (fun value => { draft with clockRate := some value }) (readNatural limit32 .rate tokens)

/-- The session of the members; one that is missing has its default. -/
def session (draft : Draft) : Session where
  descriptor := draft.descriptor.getD Session.default.descriptor
  mtu := draft.mtu.getD Session.default.mtu
  clockRate := draft.clockRate.getD Session.default.clockRate

end Draft

/-- The member with a name. -/
def Field.ofName? (name : List Char) : Option Field :=
  [Field.descriptor, .mtu, .clockRate].find? fun field => field.name.toList = name

/-- A value takes a token at least. -/
theorem length_of_readDescriptor {tokens rest : List Token} {value : Option String}
    (taken : readDescriptor tokens = .ok (value, rest)) : rest.length < tokens.length := by
  unfold readDescriptor at taken
  split at taken
  · simp only [Except.ok.injEq, Prod.mk.injEq] at taken
    simp [taken.2]
  · split at taken
    · simp at taken
    · simp only [Except.ok.injEq, Prod.mk.injEq] at taken
      simp [taken.2]
  · simp at taken

theorem length_of_readNatural {limit : Nat} {expected : Expected} {tokens rest : List Token}
    {value : Nat} (taken : readNatural limit expected tokens = .ok (value, rest)) :
    rest.length < tokens.length := by
  unfold readNatural at taken
  split at taken
  · split at taken
    · simp at taken
    · split at taken
      · simp only [Except.ok.injEq, Prod.mk.injEq] at taken
        simp [taken.2]
      · simp at taken
    · simp at taken
    · simp at taken
  · simp at taken

/-- What was put in its place was read. -/
theorem Draft.read_of_put {α : Type} {place : α → Draft} {draft : Draft} {rest : List Token}
    {taken : Except JsonFault (α × List Token)} (kept : put place taken = .ok (draft, rest)) :
    ∃ value, taken = .ok (value, rest) := by
  cases taken with
  | error fault => simp [put] at kept
  | ok pair =>
      simp only [put, Except.ok.injEq, Prod.mk.injEq] at kept
      exact ⟨pair.1, by rw [← kept.2]⟩

theorem Draft.length_of_read {draft after : Draft} {field : Field} {tokens rest : List Token}
    (taken : draft.read field tokens = .ok (after, rest)) : rest.length < tokens.length := by
  cases field with
  | descriptor =>
      obtain ⟨_, taken⟩ := read_of_put taken
      exact length_of_readDescriptor taken
  | mtu =>
      obtain ⟨_, taken⟩ := read_of_put taken
      exact length_of_readNatural taken
  | clockRate =>
      obtain ⟨_, taken⟩ := read_of_put taken
      exact length_of_readNatural taken

/-- Reads the value behind a name: a known member is kept, any other value is passed over. -/
def readMember (draft : Draft) (field : Option Field) (tokens : List Token) :
    Except JsonFault (Draft × List Token) :=
  match field with
  | some field => draft.read field tokens
  | none =>
      match Json.skipValue? tokens with
      | none => .error .malformed
      | some rest => .ok (draft, rest)

theorem length_of_readMember {draft after : Draft} {field : Option Field}
    {tokens rest : List Token} (taken : readMember draft field tokens = .ok (after, rest)) :
    rest.length < tokens.length := by
  cases field with
  | some field => exact Draft.length_of_read taken
  | none =>
      simp only [readMember] at taken
      split at taken
      · simp at taken
      next skipped =>
        simp only [Except.ok.injEq, Prod.mk.injEq] at taken
        exact taken.2 ▸ Json.length_of_skipFrom skipped

/-- Reads members up to the end of their object. -/
def readMembers (draft : Draft) (tokens : List Token) : Except JsonFault (Draft × List Token) :=
  match tokens with
  | .string pieces :: rest =>
      match Json.text? pieces with
      | none => .error .malformed
      | some name =>
          let field := Field.ofName? name
          match field.filter draft.has, rest with
          | some repeated, _ => .error (.duplicate repeated)
          | none, .colon :: behind =>
              match _ : readMember draft field behind with
              | .error fault => .error fault
              | .ok (draft, .comma :: rest) => readMembers draft rest
              | .ok (draft, .closeBrace :: rest) => .ok (draft, rest)
              | .ok _ => .error .malformed
          | none, _ => .error .malformed
  | _ => .error .malformed
  termination_by tokens.length
  decreasing_by
    have shorter := length_of_readMember ‹_ = Except.ok _›
    simp only [List.length_cons] at *
    omega

/-- Reads the members of an array up to its end. -/
def readElements (draft : Draft) : List Field → List Token → Except JsonFault (Draft × List Token)
  | [], _ => .error .malformed
  | field :: fields, tokens =>
      match draft.read field tokens with
      | .error fault => .error fault
      | .ok (draft, .comma :: rest) => readElements draft fields rest
      | .ok (draft, .closeBracket :: rest) => .ok (draft, rest)
      | .ok _ => .error .malformed

/-- Reads the members of an object or an array. -/
def readDraft : List Token → Except JsonFault (Draft × List Token)
  | .openBrace :: .closeBrace :: rest => .ok (.empty, rest)
  | .openBrace :: rest => readMembers .empty rest
  | .openBracket :: .closeBracket :: rest => .ok (.empty, rest)
  | .openBracket :: rest => readElements .empty [.descriptor, .mtu, .clockRate] rest
  | tokens => .error (unexpected .session tokens)

/-- The session that tokens describe; nothing may stand behind it. -/
def ofTokens (tokens : List Token) : Except JsonFault Session :=
  match readDraft tokens with
  | .error fault => .error fault
  | .ok (draft, []) => .ok draft.session
  | .ok _ => .error .malformed

/-- The session that JSON text describes. -/
def ofJson (text : String) : Except FrameError Session :=
  (ofTokens (Json.scan text.toList)).mapError fun fault => .invalidSession (.json fault)

end FrameLink.Session

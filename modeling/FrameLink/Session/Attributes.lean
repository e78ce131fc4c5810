import FrameLink.Session.Basic
import FrameLink.Text.Blank

/-!
# Session attributes

A session as text: attributes between semicolons, each a key and a value with an equals sign
between them. Blanks around them and empty attributes do not count, keys that nobody knows are
passed over, and of a repeated key the last value holds.
-/

namespace FrameLink.Session

open FrameLink.Text (decimal trim trimEnd readUnsigned? limit8 limit32 limit64)

/-! ## Writing -/

/-- An attribute. -/
def attributeText (key : String) (value : List Char) : List Char :=
  key.toList ++ '=' :: value

/-- The characters of bytes that are all ASCII. -/
def asciiText (bytes : Bytes) : List Char :=
  bytes.map fun byte => Char.ofNat byte.toNat

/-- The attributes of a session, in the order in which they are written. -/
def attributeTexts (session : Session) : List (List Char) :=
  (match session.descriptor with
    | none => []
    | some text => [
        attributeText "caps" (asciiText (Base64.encode (Utf8.encode text))),
        attributeText "capsversion" (decimal FormatVersion.outOfBand.val)]) ++ [
    attributeText "mtu" (decimal session.mtu),
    attributeText "clock-rate" (decimal session.clockRate)]

/-- The attributes of a session as one text. -/
def toAttributes (session : Session) : String :=
  String.ofList (List.intercalate [';'] session.attributeTexts)

/-! ## Reading -/

/-- The attributes in a text that has any: what stands between semicolons, without blanks around it
and without the empty ones. -/
def segments (text : List Char) : List (List Char) :=
  ((text.splitOn ';').map trim).filter (!·.isEmpty)

/-- Splits at the first occurrence of a separator. -/
def splitOnce? (separator : Char) : List Char → Option (List Char × List Char)
  | [] => none
  | char :: rest =>
      if char = separator then some ([], rest)
      else (splitOnce? separator rest).map fun (front, back) => (char :: front, back)

/-- A key and a value. -/
structure Attribute where
  key : List Char
  value : List Char
  deriving DecidableEq, Repr

/-- The key and the value of an attribute. -/
def Attribute.ofSegment (segment : List Char) : Except Fault Attribute :=
  match splitOnce? '=' segment with
  | none => .error (.withoutValue (String.ofList segment))
  | some (key, value) => .ok ⟨trim key, trim value⟩

/-- The format that the value of `caps` stands for; trailing null characters do not count. -/
def readCaps (value : List Char) : Except Fault String :=
  match Base64.decode (Utf8.encode (String.ofList value)) with
  | .error fault => .error (.capsNotBase64 fault)
  | .ok bytes =>
      match Utf8.decode bytes with
      | .error fault => .error (.capsNotUtf8 fault)
      | .ok text => .ok (String.ofList (trimEnd (· == '\x00') text.toList))

/-- The number that a value stands for. -/
def readNumber (key : String) (limit : Nat) (value : List Char) : Except Fault Nat :=
  match readUnsigned? limit value with
  | none => .error (.invalidNumber key (String.ofList value))
  | some number => .ok number

/-- The version of the format of a session can only be 0. -/
def readCapsVersion (value : List Char) : Except Fault Unit :=
  match readNumber "capsversion" limit8 value with
  | .error fault => .error fault
  | .ok version =>
      if version = FormatVersion.outOfBand.val then .ok () else .error (.capsVersion version)

/-- What an attribute says about a session. -/
def applyAttribute (session : Session) (entry : Attribute) : Except Fault Session :=
  if entry.key = "caps".toList then
    (readCaps entry.value).map fun text => { session with descriptor := some text }
  else if entry.key = "capsversion".toList then
    (readCapsVersion entry.value).map fun _ => session
  else if entry.key = "mtu".toList then
    (readNumber "mtu" limit64 entry.value).map fun mtu => { session with mtu }
  else if entry.key = "clock-rate".toList then
    (readNumber "clock-rate" limit32 entry.value).map fun clockRate => { session with clockRate }
  else .ok session

/-- What the text of an attribute says about a session. -/
def applySegment (session : Session) (segment : List Char) : Except Fault Session :=
  match Attribute.ofSegment segment with
  | .error fault => .error fault
  | .ok entry => session.applyAttribute entry

/-- What a run of attributes says about a session, to the first one that says nothing sound. -/
def applySegments (session : Session) : List (List Char) → Except Fault Session
  | [] => .ok session
  | segment :: rest =>
      match session.applySegment segment with
      | .error fault => .error fault
      | .ok session => applySegments session rest

/-- The session that a text describes. -/
def ofAttributes (text : String) : Except FrameError Session :=
  (default.applySegments (segments text.toList)).mapError .invalidSession

end FrameLink.Session

import FrameLink.Bytes

/-!
# UTF-8

Writing text as UTF-8 and reading it back. A reader that refuses says where the readable part
ends and how many bytes after it could still have opened a character, which is what every
message about undecodable text reports.
-/

namespace FrameLink.Utf8

/-! ## Writing -/

/-- The one to four bytes of a character. -/
def encodeChar (char : Char) : Bytes :=
  let code := char.toNat
  if code < 0x80 then [UInt8.ofNat code]
  else if code < 0x800 then
    [UInt8.ofNat (0xC0 + code / 64), UInt8.ofNat (0x80 + code % 64)]
  else if code < 0x10000 then
    [UInt8.ofNat (0xE0 + code / 4096), UInt8.ofNat (0x80 + code / 64 % 64),
      UInt8.ofNat (0x80 + code % 64)]
  else
    [UInt8.ofNat (0xF0 + code / 262144), UInt8.ofNat (0x80 + code / 4096 % 64),
      UInt8.ofNat (0x80 + code / 64 % 64), UInt8.ofNat (0x80 + code % 64)]

/-- The bytes of a text. -/
def encode (text : String) : Bytes :=
  text.toList.flatMap encodeChar

/-- The number of bytes that a text takes. -/
def size (text : String) : Nat :=
  (encode text).length

/-! ## Reading -/

/-- Why bytes are no text: the first `index` bytes are, and after them either `length` bytes
could still have opened a character, or the input ends inside one. -/
structure Fault where
  index : Nat
  length : Option Nat
  deriving DecidableEq, Repr

/-- The wording of a fault. -/
def Fault.message (fault : Fault) : String :=
  match fault.length with
  | some length => s!"invalid utf-8 sequence of {length} bytes from index {fault.index}"
  | none => s!"incomplete utf-8 byte sequence from index {fault.index}"

/-- A span of byte values, both ends included. -/
structure Span where
  low : UInt8
  high : UInt8
  deriving DecidableEq, Repr

/-- The bytes that continue a character. -/
def continuation : Span := ⟨0x80, 0xBF⟩

/-- What may follow a first byte, or nothing where it opens no character. The second byte is
held to the spans that leave out long forms, surrogates and what lies above U+10FFFF. -/
def following (lead : UInt8) : Option (List Span) :=
  if lead < 0x80 then some []
  else if lead < 0xC2 then none
  else if lead < 0xE0 then some [continuation]
  else if lead = 0xE0 then some [⟨0xA0, 0xBF⟩, continuation]
  else if lead = 0xED then some [⟨0x80, 0x9F⟩, continuation]
  else if lead < 0xF0 then some [continuation, continuation]
  else if lead = 0xF0 then some [⟨0x90, 0xBF⟩, continuation, continuation]
  else if lead < 0xF4 then some [continuation, continuation, continuation]
  else if lead = 0xF4 then some [⟨0x80, 0x8F⟩, continuation, continuation]
  else none

/-- The bits of the code point that a first byte carries. -/
def leadBits (lead : UInt8) : Nat :=
  if lead < 0x80 then lead.toNat
  else if lead < 0xE0 then lead.toNat % 32
  else if lead < 0xF0 then lead.toNat % 16
  else lead.toNat % 8

/-- Reads one byte for each span onto the bits so far. A refusal carries the number of bytes that
fitted, counted from `seen`, or nothing where the input ended first. -/
def takeSpans : List Span → (seen code : Nat) → Bytes → Except (Option Nat) (Nat × Bytes)
  | [], _, code, rest => .ok (code, rest)
  | _ :: _, _, _, [] => .error none
  | span :: spans, seen, code, byte :: rest =>
      if span.low ≤ byte ∧ byte ≤ span.high then
        takeSpans spans (seen + 1) (code * 64 + byte.toNat % 64) rest
      else .error (some seen)

/-- Reading uses up exactly one byte for each span. -/
theorem length_of_takeSpans {spans : List Span} {seen code value : Nat} {bytes rest : Bytes}
    (taken : takeSpans spans seen code bytes = .ok (value, rest)) :
    bytes.length = spans.length + rest.length := by
  induction spans generalizing seen code bytes with
  | nil =>
      simp only [takeSpans, Except.ok.injEq, Prod.mk.injEq] at taken
      simp [taken.2]
  | cons span spans ih =>
      cases bytes with
      | nil => simp [takeSpans] at taken
      | cons byte bytes =>
          simp only [takeSpans] at taken
          split at taken
          · have shorter := ih taken
            simp only [List.length_cons, shorter]
            omega
          · simp at taken

/-- Reads characters to the end, or to the first fault. -/
def decodeFrom (index : Nat) (bytes : Bytes) : Except Fault (List Char) :=
  match bytes with
  | [] => .ok []
  | lead :: rest =>
      match following lead with
      | none => .error ⟨index, some 1⟩
      | some spans =>
          match _ : takeSpans spans 1 (leadBits lead) rest with
          | .error length => .error ⟨index, length⟩
          | .ok (code, rest') =>
              match decodeFrom (index + 1 + spans.length) rest' with
              | .error fault => .error fault
              | .ok chars => .ok (Char.ofNat code :: chars)
  termination_by bytes.length
  decreasing_by
    have shorter := length_of_takeSpans ‹_ = Except.ok _›
    simp only [List.length_cons]
    omega

/-- The text whose bytes these are. -/
def decode (bytes : Bytes) : Except Fault String :=
  (decodeFrom 0 bytes).map String.ofList

end FrameLink.Utf8

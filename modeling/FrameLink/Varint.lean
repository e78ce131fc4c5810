import FrameLink.Bytes

/-!
# Length prefixes

A length is written as groups of seven bits, the most significant group first; every byte but the
last has its high bit set. Reading checks the length against the bytes that follow, so a field
behind its length is always there.
-/

namespace FrameLink.Varint

/-- The first length that does not fit a machine word. -/
def limit : Nat := 0x10000000000000000

/-! ## Writing -/

/-- The number of bytes that a length takes. -/
def encodedLength (value : Nat) : Nat :=
  if value < 128 then 1 else encodedLength (value / 128) + 1

/-- The groups in front of the last one, each with the high bit set. -/
def leading (value : Nat) : Bytes :=
  if value = 0 then [] else leading (value / 128) ++ [UInt8.ofNat (128 + value % 128)]

/-- The bytes of a length. -/
def encode (value : Nat) : Bytes :=
  leading (value / 128) ++ [UInt8.ofNat (value % 128)]

/-- A field behind its length. -/
def encodeField (field : Bytes) : Bytes :=
  encode field.length ++ field

/-! ## Reading -/

/-- Why no length could be read. -/
inductive Fault where
  | truncated
  | oversized (length remaining : Nat)
  deriving DecidableEq, Repr

/-- The wording of a fault. -/
def Fault.message : Fault → String
  | .truncated => "truncated input"
  | .oversized length remaining =>
      s!"length prefix {length} exceeds remaining {remaining} bytes"

/-- A length that was read, and the number of bytes it took. -/
structure Length where
  value : Nat
  width : Nat
  deriving DecidableEq, Repr

/-- Reads groups onto the value so far. A group that would not fit a machine word is refused before
it is added. -/
def decodeFrom (value width : Nat) : Bytes → Except Fault Length
  | [] => .error .truncated
  | byte :: rest =>
      if limit / 128 ≤ value then .error (.oversized (limit - 1) rest.length)
      else
        let value := value * 128 + byte.toNat % 128
        if byte.toNat < 128 then
          if rest.length < value then .error (.oversized value rest.length)
          else .ok ⟨value, width + 1⟩
        else decodeFrom value (width + 1) rest

/-- Reads the length at the front. -/
def decode (bytes : Bytes) : Except Fault Length :=
  decodeFrom 0 0 bytes

/-- Splits the field at the front off, with its length. -/
def takeField (bytes : Bytes) : Except Fault (Bytes × Bytes) :=
  match decode bytes with
  | .error fault => .error fault
  | .ok length =>
      let behind := bytes.drop length.width
      .ok (behind.take length.value, behind.drop length.value)

end FrameLink.Varint

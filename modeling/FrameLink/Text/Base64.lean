import FrameLink.Bytes

/-!
# Base64

The standard alphabet with padding. Writing groups three bytes into four symbols; reading accepts
exactly the written forms and otherwise names the first thing wrong, quad by quad.
-/

namespace FrameLink.Base64

/-! ## The alphabet -/

/-- The padding symbol. -/
def pad : UInt8 := 0x3D

/-- The symbol of a six-bit value. -/
def symbol (value : Nat) : UInt8 :=
  if value < 26 then UInt8.ofNat (0x41 + value)
  else if value < 52 then UInt8.ofNat (0x61 + (value - 26))
  else if value < 62 then UInt8.ofNat (0x30 + (value - 52))
  else if value = 62 then 0x2B
  else 0x2F

/-- The six-bit value of a symbol. -/
def value? (symbol : UInt8) : Option Nat :=
  if 0x41 ≤ symbol ∧ symbol ≤ 0x5A then some (symbol.toNat - 0x41)
  else if 0x61 ≤ symbol ∧ symbol ≤ 0x7A then some (symbol.toNat - 0x61 + 26)
  else if 0x30 ≤ symbol ∧ symbol ≤ 0x39 then some (symbol.toNat - 0x30 + 52)
  else if symbol = 0x2B then some 62
  else if symbol = 0x2F then some 63
  else none

/-! ## Writing -/

/-- The padded symbols of a byte string. -/
def encode : Bytes → Bytes
  | [] => []
  | [a] => [symbol (a.toNat / 4), symbol (a.toNat % 4 * 16), pad, pad]
  | [a, b] =>
      [symbol (a.toNat / 4), symbol (a.toNat % 4 * 16 + b.toNat / 16),
        symbol (b.toNat % 16 * 4), pad]
  | a :: b :: c :: rest =>
      symbol (a.toNat / 4) :: symbol (a.toNat % 4 * 16 + b.toNat / 16) ::
        symbol (b.toNat % 16 * 4 + c.toNat / 64) :: symbol (c.toNat % 64) :: encode rest

/-! ## Reading -/

/-- Why bytes are no written form. -/
inductive Fault where
  | invalidSymbol (symbol : UInt8) (offset : Nat)
  | invalidLength (length : Nat)
  | invalidPadding
  | invalidLastSymbol (symbol : UInt8) (offset : Nat)
  deriving DecidableEq, Repr

/-- The wording of a fault. -/
def Fault.message : Fault → String
  | .invalidSymbol symbol offset => s!"Invalid symbol {symbol.toNat}, offset {offset}."
  | .invalidLength length => s!"Invalid input length: {length}"
  | .invalidPadding => "Invalid padding"
  | .invalidLastSymbol symbol offset =>
      s!"Invalid last symbol {symbol.toNat}, offset {offset}."

/-- The value of a symbol that stands at the offset. -/
def valueAt (offset : Nat) (symbol : UInt8) : Except Fault Nat :=
  match value? symbol with
  | some value => .ok value
  | none => .error (.invalidSymbol symbol offset)

/-- The values in front of the padding of the last quad. A pad is out of place in the first two
places, and so is one with anything but a pad behind it. -/
def lastValues (start : Nat) : (place : Nat) → Bytes → Except Fault (List Nat × Nat)
  | _, [] => .ok ([], 0)
  | place, byte :: rest =>
      if byte = pad then
        if place < 2 ∨ rest.any (· != pad) then .error (.invalidSymbol pad (start + place))
        else .ok ([], rest.length + 1)
      else
        match valueAt (start + place) byte with
        | .error fault => .error fault
        | .ok value =>
            match lastValues start (place + 1) rest with
            | .error fault => .error fault
            | .ok (values, pads) => .ok (value :: values, pads)

/-- The bytes of the last quad, which starts at an offset and holds one to four bytes. -/
def decodeLast (start : Nat) (quad : Bytes) : Except Fault Bytes :=
  match lastValues start 0 quad with
  | .error fault => .error fault
  | .ok (values, pads) =>
      if values.length < 2 then .error (.invalidLength (start + values.length))
      else if values.length + pads ≠ 4 then .error .invalidPadding
      else
        let unused := .error (.invalidLastSymbol (quad.getD (values.length - 1) 0)
          (start + values.length - 1))
        match values with
        | [a, b] => if b % 16 ≠ 0 then unused else .ok [UInt8.ofNat (a * 4 + b / 16)]
        | [a, b, c] =>
            if c % 4 ≠ 0 then unused
            else .ok [UInt8.ofNat (a * 4 + b / 16), UInt8.ofNat (b * 16 + c / 4)]
        | [a, b, c, d] =>
            .ok [UInt8.ofNat (a * 4 + b / 16), UInt8.ofNat (b * 16 + c / 4),
              UInt8.ofNat (c * 64 + d)]
        | _ => .error .invalidPadding

/-- Reads quads from an offset on; the last one may be padded. -/
def decodeFrom (start : Nat) : Bytes → Except Fault Bytes
  | [] => .ok []
  | p :: q :: r :: s :: t :: rest =>
      match valueAt start p with
      | .error fault => .error fault
      | .ok a =>
          match valueAt (start + 1) q with
          | .error fault => .error fault
          | .ok b =>
              match valueAt (start + 2) r with
              | .error fault => .error fault
              | .ok c =>
                  match valueAt (start + 3) s with
                  | .error fault => .error fault
                  | .ok d =>
                      match decodeFrom (start + 4) (t :: rest) with
                      | .error fault => .error fault
                      | .ok bytes =>
                          .ok (UInt8.ofNat (a * 4 + b / 16) :: UInt8.ofNat (b * 16 + c / 4) ::
                            UInt8.ofNat (c * 64 + d) :: bytes)
  | quad => decodeLast start quad

/-- The stray last byte of an input one longer than whole quads, where it is no symbol at all. -/
def stray? (input : Bytes) : Option UInt8 :=
  match input.getLast? with
  | some byte =>
      if input.length % 4 = 1 ∧ byte ≠ pad ∧ (value? byte).isNone then some byte else none
  | none => none

/-- The bytes that a written form stands for. -/
def decode (input : Bytes) : Except Fault Bytes :=
  match stray? input with
  | some byte => .error (.invalidSymbol byte (input.length - 1))
  | none => decodeFrom 0 input

end FrameLink.Base64

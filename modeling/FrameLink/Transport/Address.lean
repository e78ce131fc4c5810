import FrameLink.Text.Decimal
import FrameLink.Text.Hexadecimal

/-!
# Socket addresses

An address with a port, read from text and written back in its one canonical form.
-/

namespace FrameLink.Transport

open FrameLink.Text (decimal hexDigits hexValue?)

/-- An internet address with a port: four bytes, or eight groups of 16 bits with a scope. -/
inductive Address where
  | v4 (bytes : List Nat) (port : Nat)
  | v6 (groups : List Nat) (scope : Nat) (port : Nat)
  deriving DecidableEq, Repr

namespace Address

/-! ## Reading -/

/-- Digits of a number below the limit, at most as many as given. -/
def readNumber? (limit most : Nat) (chars : List Char) : Option Nat :=
  if chars.length ≤ most then Text.readDigits? limit chars else none

/-- A byte in decimal without leading zeros. -/
def readByte? (chars : List Char) : Option Nat :=
  match chars with
  | '0' :: _ :: _ => none
  | chars => readNumber? 256 3 chars

/-- A port in decimal. -/
def readPort? (chars : List Char) : Option Nat :=
  Text.readDigits? 65536 chars

/-- Four bytes between points. -/
def readV4? (chars : List Char) : Option (List Nat) :=
  let parts := chars.splitOn '.'
  if parts.length = 4 then parts.mapM readByte? else none

/-- A group of one to four hexadecimal digits. -/
def readGroup? (chars : List Char) : Option Nat :=
  if 1 ≤ chars.length ∧ chars.length ≤ 4 then
    (chars.mapM hexValue?).map fun digits => digits.foldl (fun value digit => value * 16 + digit) 0
  else none

/-- Groups between colons; the last part may be four bytes, which stand for two groups. -/
def readGroups? (chars : List Char) : Option (List Nat) :=
  if chars.isEmpty then some []
  else
    let parts := chars.splitOn ':'
    match (parts.dropLast).mapM readGroup?, parts.getLast? with
    | some groups, some last =>
        match readGroup? last, readV4? last with
        | some group, _ => some (groups ++ [group])
        | none, some [a, b, c, d] => some (groups ++ [a * 256 + b, c * 256 + d])
        | none, _ => none
    | _, _ => none

/-- Splits at the first place where two colons stand together. -/
def splitGap? : List Char → Option (List Char × List Char)
  | ':' :: ':' :: rest => some ([], rest)
  | char :: rest => (splitGap? rest).map fun (front, back) => (char :: front, back)
  | [] => none

/-- Eight groups; one run of zero groups may be left out between two colons. -/
def readV6? (chars : List Char) : Option (List Nat) :=
  match splitGap? chars with
  | none => (readGroups? chars).filter (·.length = 8)
  | some (front, back) =>
      match readGroups? front, readGroups? back with
      | some front', some back' =>
          if front'.length + back'.length < 8 ∧ !front.contains '.' then
            some (front' ++ List.replicate (8 - front'.length - back'.length) 0 ++ back')
          else none
      | _, _ => none

/-- Splits at the last occurrence of a character. -/
def splitLast? (separator : Char) (chars : List Char) : Option (List Char × List Char) :=
  let reversed := chars.reverse
  if reversed.contains separator then
    some ((reversed.dropWhile (· != separator)).drop 1 |>.reverse,
      (reversed.takeWhile (· != separator)).reverse)
  else none

/-- A scope behind a percent sign, where there is one. -/
def readScope? (chars : List Char) : Option (List Char × Nat) :=
  match splitLast? '%' chars with
  | none => some (chars, 0)
  | some (groups, scope) => (Text.readDigits? Text.limit32 scope).map (groups, ·)

/-- The address that a text stands for. -/
def ofString? (text : String) : Option Address :=
  match splitLast? ':' text.toList with
  | none => none
  | some ('[' :: host, port) =>
      match host.reverse with
      | ']' :: inner =>
          match readScope? inner.reverse with
          | none => none
          | some (groups, scope) =>
              match readV6? groups, readPort? port with
              | some groups, some port => some (.v6 groups scope port)
              | _, _ => none
      | _ => none
  | some (host, port) =>
      match readV4? host, readPort? port with
      | some bytes, some port => some (.v4 bytes port)
      | _, _ => none

/-! ## Writing -/

/-- The number of zeros in front. -/
def zeroRun (groups : List Nat) : Nat :=
  (groups.takeWhile (· == 0)).length

/-- The start and length of the first longest run of at least two zero groups. -/
def longestGap? (groups : List Nat) : Option (Nat × Nat) :=
  let runs := (List.range groups.length).map fun start => (start, zeroRun (groups.drop start))
  let longest := runs.foldl (fun best run => if best.2 < run.2 then run else best) (0, 0)
  if 2 ≤ longest.2 then some longest else none

/-- Groups in hexadecimal between colons. -/
def groupsText (groups : List Nat) : List Char :=
  List.intercalate [':'] (groups.map hexDigits)

/-- Bytes in decimal between points. -/
def bytesText (bytes : List Nat) : List Char :=
  List.intercalate ['.'] (bytes.map decimal)

/-- The text of eight groups: the longest run of zeros is left out, and groups that carry four bytes
show them. -/
def v6Text (groups : List Nat) : List Char :=
  match groups with
  | [0, 0, 0, 0, 0, 65535, high, low] =>
      "::ffff:".toList ++ bytesText [high / 256, high % 256, low / 256, low % 256]
  | groups =>
      match longestGap? groups with
      | none => groupsText groups
      | some (start, length) =>
          groupsText (groups.take start) ++ [':', ':'] ++ groupsText (groups.drop (start + length))

/-- The canonical text of an address. -/
def toText : Address → String
  | .v4 bytes port => String.ofList (bytesText bytes ++ ':' :: decimal port)
  | .v6 groups scope port =>
      let scopeText := if scope = 0 then [] else '%' :: decimal scope
      String.ofList ('[' :: v6Text groups ++ scopeText ++ ']' :: ':' :: decimal port)

end Address

end FrameLink.Transport

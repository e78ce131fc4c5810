import FrameLink.Report.Table
import FrameLink.Session.Attributes
import FrameLink.Session.Json
import FrameLink.Stream.Reader

/-!
# Reports

What the command line prints of deliveries, counters, sessions and what was sent, in each of its
four formats. A report is a byte string, because a payload is printed as it came.
-/

namespace FrameLink.Report

open FrameLink.Json (Member)

/-- The formats of reports. -/
inductive Format where
  | json
  | table
  | pretty
  | raw
  deriving DecidableEq, Repr

namespace Format

/-- The name of a format. -/
def name : Format → String
  | .json => "json"
  | .table => "table"
  | .pretty => "pretty"
  | .raw => "raw"

/-- The format with a name. -/
def ofName? (name : String) : Option Format :=
  [Format.json, .table, .pretty, .raw].find? fun format => format.name = name

/-- The format where none is given: tables for a reader at a terminal, records for a program. -/
def standard (terminal : Bool) : Format :=
  if terminal then .table else .json

end Format

/-! ## Parts -/

/-- A line of text with its line break. -/
def line (text : String) : Bytes :=
  Utf8.encode text ++ [0x0A]

/-- A JSON object on a line of its own. -/
def record (members : List Member) : Bytes :=
  line (String.ofList (Json.compactObject members))

/-- A member with a text. -/
def textMember (name value : String) : Member :=
  ⟨name, Json.stringText value⟩

/-- A member with a number. -/
def numberMember (name : String) (value : Nat) : Member :=
  ⟨name, Text.decimal value⟩

/-- The names of flags, with bars between them. -/
def flagsText (flags : FrameFlags) : String :=
  String.intercalate "|" flags.names

/-- A payload as text, where it is text. -/
def preview (payload : Bytes) : String :=
  match Utf8.decode payload with
  | .ok text => text
  | .error _ => s!"<binary {payload.length} bytes>"

/-! ## Deliveries -/

/-- A delivered frame. -/
def frame (frame : ReceivedFrame) : Format → Bytes
  | .json => record [
      textMember "type" "frame",
      numberMember "version" frame.version.val,
      textMember "descriptor" frame.descriptor.text,
      ⟨"format_changed", Json.boolText frame.formatChanged⟩,
      textMember "flags" (flagsText frame.flags),
      numberMember "timestamp" frame.timestamp.toNat,
      numberMember "payload_size" frame.payload.length,
      textMember "payload" (preview frame.payload)]
  | .table => Utf8.encode <| Table.render {
      header := ["VERSION", "FORMAT", "FLAGS", "SIZE", "PAYLOAD"]
      rows := [[
        toString frame.version.val,
        frame.descriptor.text,
        flagsText frame.flags,
        toString frame.payload.length,
        preview frame.payload]] }
  | .pretty =>
      line <| s!"frame version={frame.version.val} format={frame.descriptor.quoted} " ++
        s!"flags={flagsText frame.flags} size={frame.payload.length} " ++
        s!"payload={preview frame.payload}"
  | .raw => frame.payload

/-- A delivered event. -/
def event (event : Event) : Format → Bytes
  | .json => record [
      textMember "type" "event",
      textMember "kind" event.kind.name,
      textMember "body" event.body]
  | .table => Utf8.encode <| Table.render {
      header := ["EVENT", "BODY"]
      rows := [[event.kind.name, event.body]] }
  | .pretty => line s!"event kind={event.kind.name} body={event.body}"
  | .raw => Utf8.encode event.body

/-- A delivery. -/
def delivery (delivery : Delivery) (format : Format) : Bytes :=
  match delivery with
  | .frame received => frame received format
  | .event received => event received format

/-! ## What was sent -/

/-- What a run of the sending command did. -/
structure Sent where
  frames : Nat
  packets : Nat
  bytes : Nat
  mtu : Nat
  deriving DecidableEq, Repr

/-- What was sent, on a line of words. -/
def sentLine (sent : Sent) : Bytes :=
  line <| s!"sent frames={sent.frames} packets={sent.packets} bytes={sent.bytes} " ++
    s!"mtu={sent.mtu}"

/-- What was sent. -/
def sent (sent : Sent) : Format → Bytes
  | .json => record [
      numberMember "frames" sent.frames,
      numberMember "packets" sent.packets,
      numberMember "bytes" sent.bytes,
      numberMember "mtu" sent.mtu]
  | .table => Utf8.encode <| Table.render {
      header := ["FRAMES", "PACKETS", "BYTES", "MTU"]
      rows := [[
        toString sent.frames,
        toString sent.packets,
        toString sent.bytes,
        toString sent.mtu]] }
  | .pretty => sentLine sent
  | .raw => sentLine sent

/-! ## Counters -/

/-- What a reader has counted; the raw format holds payloads alone. -/
def counters (counters : Counters) : Format → Bytes
  | .json => record [
      numberMember "packets" counters.packets,
      numberMember "frames" counters.frames,
      numberMember "events" counters.events,
      numberMember "discontinuities" counters.discontinuities,
      numberMember "fragment_mismatches" counters.fragmentMismatches,
      numberMember "missing_versions" counters.missingVersions,
      numberMember "malformed" counters.malformed,
      numberMember "oversized" counters.oversized]
  | .table => Utf8.encode <| Table.render {
      header := ["COUNTER", "VALUE"]
      rows := [
        ["packets", toString counters.packets],
        ["frames", toString counters.frames],
        ["events", toString counters.events],
        ["discontinuities", toString counters.discontinuities],
        ["dropped", toString counters.dropped]] }
  | .pretty =>
      line <| s!"packets={counters.packets} frames={counters.frames} " ++
        s!"events={counters.events} discontinuities={counters.discontinuities} " ++
        s!"dropped={counters.dropped}"
  | .raw => []

/-! ## Sessions -/

/-- A session. -/
def session (session : Session) : Format → Bytes
  | .json => line session.toJson
  | .table => Utf8.encode <| Table.render {
      header := ["ATTRIBUTE", "VALUE"]
      rows := [
        ["descriptor", session.descriptor.getD ""],
        ["mtu", toString session.mtu],
        ["clock-rate", toString session.clockRate]] }
  | .pretty => line session.toAttributes
  | .raw => line session.toAttributes

end FrameLink.Report

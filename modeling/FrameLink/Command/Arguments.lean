import FrameLink.Command.Options
import FrameLink.Receiver.Basic
import FrameLink.Report.Basic

/-!
# Arguments

The four commands and what each is asked to do. Options that hold for every command may stand in
front of its name or behind it; behind it they win.
-/

namespace FrameLink.Command

open FrameLink.Transport (Address)

/-! ## Commands -/

/-- What the sending command is asked to do. -/
structure SendArguments where
  destination : Address
  bind : Address
  data : Option String
  file : Option String
  descriptor : Option String
  session : Option String
  mtu : Option Nat
  frameSize : Option Nat
  delta : Bool
  event : Option String
  timestampStep : Nat
  deriving DecidableEq, Repr

/-- What the receiving command is asked to do. -/
structure ReceiveArguments where
  bind : Address
  session : Option String
  count : Option Nat
  timeout : Option String
  maxFrameSize : Nat
  stats : Bool
  deriving DecidableEq, Repr

/-- What the session command is asked to do. -/
structure SessionArguments where
  descriptor : Option String
  mtu : Nat
  clockRate : Nat
  parse : Option String
  deriving DecidableEq, Repr

/-- A command with its arguments. -/
inductive Task where
  | send (arguments : SendArguments)
  | receive (arguments : ReceiveArguments)
  | session (arguments : SessionArguments)
  | version (extended : Bool)
  deriving DecidableEq, Repr

/-- A command line: a command and the format of its reports, where one is given, or the version
alone. -/
inductive Invocation where
  | run (task : Task) (format : Option Report.Format)
  | version
  deriving DecidableEq, Repr

/-! ## Options -/

/-- The options of every command. -/
def globalOptions : List String := ["format", "log-format", "log-level"]

/-- The options of the sending command. -/
def sendOptions : Known where
  valued := globalOptions ++ ["bind", "data", "file", "descriptor", "session", "mtu",
    "frame-size", "event", "timestamp-step"]
  flags := ["delta"]

/-- The options of the receiving command. -/
def receiveOptions : Known where
  valued := globalOptions ++ ["session", "count", "timeout", "max-frame-size"]
  flags := ["stats"]

/-- The options of the session command. -/
def sessionOptions : Known where
  valued := globalOptions ++ ["descriptor", "mtu", "clock-rate", "parse"]
  flags := []

/-- The options of the version command. -/
def versionOptions : Known where
  valued := globalOptions
  flags := ["extended"]

/-- The values that an option takes by name. -/
def oneOf (names : List String) (text : String) : Option String :=
  if names.contains text then some text else none

/-- The format of reports that options ask for, where every option of all commands is sound. -/
def readGlobals (words : Words) : Option (Option Report.Format) :=
  match readValue words "log-format" (oneOf ["text", "json"]),
      readValue words "log-level" (oneOf ["error", "warn", "info", "debug", "trace"]) with
  | some _, some _ => readValue words "format" Report.Format.ofName?
  | _, _ => none

/-! ## Reading -/

/-- The address where none is given to send from. -/
def anyAddress : Address := .v4 [0, 0, 0, 0] 0

/-- The step of timestamps where none is given. -/
def defaultTimestampStep : Nat := 3000

/-- A path, which cannot be empty. -/
def path? (text : String) : Option String :=
  if text.isEmpty then none else some text

/-- Reads the arguments of the sending command. -/
def readSend (words : Words) : Option SendArguments :=
  if (words.value? "data").isSome ∧ (words.value? "file").isSome then none
  else
    match words.positionals with
    | [destination] => do
        let destination ← Address.ofString? destination
        let bind ← readValueOr words "bind" Address.ofString? anyAddress
        let file ← readValue words "file" path?
        let mtu ← readValue words "mtu" size?
        let frameSize ← readValue words "frame-size" size?
        let timestampStep ← readValueOr words "timestamp-step" word? defaultTimestampStep
        some {
          destination
          bind
          data := words.value? "data"
          file
          descriptor := words.value? "descriptor"
          session := words.value? "session"
          mtu
          frameSize
          delta := words.has "delta"
          event := words.value? "event"
          timestampStep }
    | _ => none

/-- Reads the arguments of the receiving command. -/
def readReceive (words : Words) : Option ReceiveArguments :=
  match words.positionals with
  | [bind] => do
      let bind ← Address.ofString? bind
      let count ← readValue words "count" size?
      let maxFrameSize ← readValueOr words "max-frame-size" size? defaultMaxFrameSize
      some {
        bind
        session := words.value? "session"
        count
        timeout := words.value? "timeout"
        maxFrameSize
        stats := words.has "stats" }
  | _ => none

/-- Reads the arguments of the session command. -/
def readSession (words : Words) : Option SessionArguments :=
  if (words.value? "descriptor").isSome ∧ (words.value? "parse").isSome then none
  else
    match words.positionals with
    | [] => do
        let mtu ← readValueOr words "mtu" size? defaultMtu
        let clockRate ← readValueOr words "clock-rate" word? CarrierHeader.defaultClockRate
        some {
          descriptor := words.value? "descriptor"
          mtu
          clockRate
          parse := words.value? "parse" }
    | _ => none

/-- Reads the arguments of the version command. -/
def readVersion (words : Words) : Option Bool :=
  match words.positionals with
  | [] => some (words.has "extended")
  | _ => none

/-- Reads a command behind its name. -/
def readTask (name : String) (rest : List String) : Option (Task × Option Report.Format) :=
  let read (known : Known) (task : Words → Option Task) :=
    match sortWords known .empty rest with
    | none => none
    | some words =>
        match task words, readGlobals words with
        | some task, some format => some (task, format)
        | _, _ => none
  match name with
  | "send" => read sendOptions fun words => (readSend words).map .send
  | "recv" => read receiveOptions fun words => (readReceive words).map .receive
  | "session" => read sessionOptions fun words => (readSession words).map .session
  | "version" => read versionOptions fun words => (readVersion words).map .version
  | _ => none

/-- Whether a word asks for the version of the program; letters behind the short form are not
read any more. -/
def asksVersion (word : String) : Bool :=
  word = "--version" || ['-', 'V'].isPrefixOf word.toList

/-- Reads a command line behind the options that have been sorted. -/
def readLine (front : Words) : List String → Option Invocation
  | [] => none
  | word :: rest =>
      if asksVersion word then (readGlobals front).map fun _ => .version
      else
        match Shape.of word with
        | .plain =>
            match readGlobals front, readTask word rest with
            | some before, some (task, behind) =>
                some (.run task (behind.or before))
            | _, _ => none
        | .option name (some value) =>
            if globalOptions.contains name then
              match front.addValue? name value with
              | none => none
              | some front => readLine front rest
            else none
        | .option name none =>
            if globalOptions.contains name then
              match rest with
              | [] => none
              | value :: rest =>
                  if Shape.of value = .plain then
                    match front.addValue? name value with
                    | none => none
                    | some front => readLine front rest
                  else none
            else none
        | _ => none

/-- Reads a command line; nothing where it is not one. -/
def Invocation.ofWords? (words : List String) : Option Invocation :=
  readLine .empty words

end FrameLink.Command

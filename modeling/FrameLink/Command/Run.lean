import FrameLink.Command.Log
import FrameLink.Command.Receive
import FrameLink.Command.Send

/-!
# Running command lines

What a command line does in a given world.
-/

namespace FrameLink.Command

/-! ## Versions -/

/-- The name of the program. -/
def programName : String := "fragline"

/-- The version of the program. -/
def programVersion : String := "0.1.0"

/-- The variable of the environment with log directives. -/
def logVariable : String := "FRAGLINE_LOG"

/-- The name and version on one line. -/
def versionLine : Bytes :=
  Report.line s!"{programName} {programVersion}"

/-- The version command. -/
def runVersion (extended : Bool) : Outcome :=
  .finished <|
    if extended then
      Report.line s!"name: {programName}" ++ Report.line s!"version: {programVersion}" ++
        Report.line s!"header_size: {PacketHeader.size}" ++
        Report.line s!"default_mtu: {defaultMtu}"
    else versionLine

/-! ## Command lines -/

/-- Does a task. -/
def Task.run (world : World) (format : Report.Format) : Task → Outcome
  | .send arguments => runSend world arguments format
  | .receive arguments => runReceive world arguments format
  | .session arguments => runSession arguments format
  | .version extended => runVersion extended

/-- The log directives of the environment that are passed over with a warning. -/
def World.unsoundLog? (world : World) : Option String :=
  match world.log with
  | none => none
  | some text =>
      let directives := Text.trim text.toList
      if directives.isEmpty || Log.isSound directives then none
      else some (String.ofList directives)

/-- What a command line does, and whether a warning goes in front; nothing where it is no command
line. -/
def run? (world : World) (words : List String) : Option (Outcome × Bool) :=
  match Invocation.ofWords? words with
  | none => none
  | some .version => some (.finished versionLine, false)
  | some (.run task format) =>
      some (task.run world (format.getD (.standard world.terminal)), world.unsoundLog?.isSome)

end FrameLink.Command

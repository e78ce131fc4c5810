import FrameLink.Command.Arguments
import FrameLink.Command.World

/-!
# The session command

Sessions on the command line: what the option of a session says, and the command that shows one.
-/

namespace FrameLink.Command

/-- The session of an option, where it is given. -/
def readSessionText (text : Option String) : Except Failure Session :=
  match text with
  | none => .ok .default
  | some text => (Session.ofAttributes text).mapError (Failure.ofFrame "invalid --session")

/-- Shows a session: the one that a text describes, or the one of the other options. -/
def runSession (arguments : SessionArguments) (format : Report.Format) : Outcome :=
  match arguments.parse with
  | none =>
      .finished <| Report.session ⟨arguments.descriptor, arguments.mtu, arguments.clockRate⟩ format
  | some text =>
      match readSessionText (some text) with
      | .error failure => .failed failure
      | .ok session => .finished (Report.session session format)

end FrameLink.Command

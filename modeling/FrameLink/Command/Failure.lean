import FrameLink.Error

/-!
# Failures of the command line

Every error ends a command with an exit code and a message that says in which step it came up.
-/

namespace FrameLink.Command

open FrameLink.Transport (IoError TransportError)

/-- The exit codes of commands. -/
inductive ExitCode where
  | success
  | failure
  | usageText
  | transport
  | permissionDenied
  | dataInvalid
  | usage
  | timeout
  | internal
  deriving DecidableEq, Repr

/-- The number of an exit code. -/
def ExitCode.toNat : ExitCode → Nat
  | .success => 0
  | .failure => 1
  | .usageText => 2
  | .transport => 3
  | .permissionDenied => 50
  | .dataInvalid => 60
  | .usage => 64
  | .timeout => 124
  | .internal => 125

/-- The end of a command that did not do what it was asked for. -/
structure Failure where
  code : ExitCode
  message : String
  deriving DecidableEq, Repr

namespace Failure

/-- The code for a failure of the operating system. -/
def codeOfIo (error : IoError) : ExitCode :=
  match error.kind with
  | .permissionDenied => .permissionDenied
  | .timedOut => .timeout
  | .wouldBlock => .timeout
  | .addressInUse => .usage
  | .addressNotAvailable => .usage
  | .connectionRefused => .failure
  | _ => .internal

/-- A failure of the operating system in a step. -/
def ofIo (step : String) (error : IoError) : Failure :=
  ⟨codeOfIo error, s!"{step}: {error.message}"⟩

/-- A transport error in a step; what the operating system reported stands for itself. -/
def ofTransport (step : String) (error : TransportError) : Failure :=
  match error with
  | .bind _ source => ofIo step source
  | .connect _ source => ofIo step source
  | .io source => ofIo step source
  | .datagramTooLarge _ _ => ⟨.dataInvalid, s!"{step}: {error.message}"⟩
  | .closed => ⟨.failure, s!"{step}: {error.message}"⟩
  | _ => ⟨.transport, s!"{step}: {error.message}"⟩

/-- A framing error in a step. -/
def ofFrame (step : String) (error : FrameError) : Failure :=
  match error with
  | .transport source => ofTransport step source
  | .pushFailed sent source => ofTransport s!"{step} after {sent} packets" source
  | .mtuTooSmall _ _ => ⟨.usage, s!"{step}: {error.message}"⟩
  | .invalidSession _ => ⟨.usage, s!"{step}: {error.message}"⟩
  | _ => ⟨.dataInvalid, s!"{step}: {error.message}"⟩

end Failure

end FrameLink.Command

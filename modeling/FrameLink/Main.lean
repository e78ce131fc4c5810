import FrameLink.Command.Run
import Std.Async.UDP
import Std.Async.Timer

/-!
# The program

The outer layer finds out what the world of a command is like, lets the command say what it does in
that world, and does it: a file is read beforehand, sends are made as the command lists them, and
what is received is handed to the receive under way.
-/

namespace FrameLink.Console

open FrameLink.Command
open FrameLink.Transport (Address IoError)
open Std.Async (Async Selectable Selector)
open Std.Async.UDP (Socket)
open Std.Net (SocketAddress)

/-! ## Failures -/

/-- The number that came with a failure. -/
def codeOf : IO.Error → UInt32
  | .alreadyExists _ code _ => code
  | .otherError code _ => code
  | .resourceBusy code _ => code
  | .resourceVanished code _ => code
  | .unsupportedOperation code _ => code
  | .hardwareFault code _ => code
  | .unsatisfiedConstraints code _ => code
  | .illegalOperation code _ => code
  | .protocolError code _ => code
  | .timeExpired code _ => code
  | .interrupted _ code _ => code
  | .noFileOrDirectory _ code _ => code
  | .invalidArgument _ code _ => code
  | .permissionDenied _ code _ => code
  | .resourceExhausted _ code _ => code
  | .inappropriateType _ code _ => code
  | .noSuchThing _ code _ => code
  | .unexpectedEof => 0
  | .userError _ => 0

/-- The failure of a call. Calls to the network count their numbers down from zero. -/
def failureOf (error : IO.Error) : IoError :=
  let code := (codeOf error).toNat
  .ofCode (if code < 0x80000000 then code else 0x100000000 - code)

/-- Makes a call, and tells how it failed where it did. -/
def attempt {α : Type} (call : IO α) : IO (Except IoError α) := do
  return (← call.toBaseIO).mapError failureOf

/-! ## Bytes and addresses -/

/-- Bytes for a call. -/
def packed (bytes : Bytes) : ByteArray :=
  ⟨bytes.toArray⟩

/-- An address for a call. -/
def socketAddress : Address → SocketAddress
  | .v4 bytes port =>
      let byte (index : Nat) : UInt8 := UInt8.ofNat (bytes.getD index 0)
      .v4 ⟨.ofParts (byte 0) (byte 1) (byte 2) (byte 3), UInt16.ofNat port⟩
  | .v6 groups _ port =>
      .v6 ⟨⟨Vector.ofFn fun index => UInt16.ofNat (groups.getD index.val 0)⟩, UInt16.ofNat port⟩

/-- Prints a part of a report. -/
def write (output : Bytes) : IO Unit := do
  let stdout ← IO.getStdout
  stdout.write (packed output)
  stdout.flush

/-! ## Sending -/

/-- Sends datagrams until one fails, and tells what the sends found. -/
def transmit (socket : Socket) : List Bytes → IO (List (Option IoError))
  | [] => return []
  | raw :: rest => do
      match ← attempt (socket.send (packed raw)).block with
      | .error fault => return [some fault]
      | .ok () => return none :: (← transmit socket rest)

/-- The sending command, in the world where its datagrams have gone out. -/
def send (world : World) (arguments : SendArguments) (format : Report.Format) : IO Outcome := do
  if (planSend world arguments).toBool then
    let socket ← Socket.mk
    if let .error fault ← attempt (socket.bind (socketAddress arguments.bind)) then
      return runSend { world with bindFault := fun _ => some fault } arguments format
    if let .error fault ← attempt (socket.connect (socketAddress arguments.destination)) then
      return runSend { world with connectFault := fun _ _ => some fault } arguments format
    let sendResults ← transmit socket (runSend world arguments format).wire
    return runSend { world with sendResults } arguments format
  else return runSend world arguments format

/-! ## Receiving -/

/-- Waits for a datagram of at most a size, and gives up after a fifth of a second. -/
def hear (socket : Socket) (size : Nat) : Async (Except IoError Bytes) := do
  let patience ← Selector.sleep 200
  Selectable.one #[
    .case (socket.recvSelector (UInt64.ofNat size)) fun (raw, _) => return .ok raw.toList,
    .case patience fun _ => return .error (.ofKind .wouldBlock)]

/-- Receives until the receive is over or silence, which began at an instant, lasted too long. -/
partial def receiveFrom (socket : Socket) (plan : ReceivePlan) (arguments : ReceiveArguments)
    (format : Report.Format) (quietSince : Nat) (receiving : Receiving) : IO Ending := do
  let found := (← attempt (hear socket receiving.endpoint.bufferSize).block).bind id
  let (progress, output, after) := receiving.take arguments format found
  write output
  let now ← IO.monoMsNow
  let quietSince := if receiving.printed = after.printed then quietSince else now
  let tooLong := plan.patience.any fun patience => patience.milliseconds ≤ now - quietSince
  if progress = .going && !(receiving.isSilence found && tooLong) then
    receiveFrom socket plan arguments format quietSince after
  else
    let (last, ending) := after.finish arguments format progress
    write last
    return ending

/-- The receiving command. -/
def receive (world : World) (arguments : ReceiveArguments) (format : Report.Format) :
    IO Ending := do
  match planReceive arguments with
  | .error failure => return .failed failure
  | .ok plan =>
      let socket ← Socket.mk
      if let .error fault ← attempt (socket.bind (socketAddress arguments.bind)) then
        return (runReceive { world with bindFault := fun _ => some fault } arguments format).ending
      receiveFrom socket plan arguments format (← IO.monoMsNow) (.fresh plan)

/-! ## Command lines -/

/-- The file that a task reads. -/
def file? : Task → Option String
  | .send arguments => if arguments.data.isSome then none else arguments.file
  | _ => none

/-- The world that a task meets, in which nothing has gone wrong yet. -/
def worldOf (task : Task) : IO World := do
  let bytes : Except IoError Bytes ←
    match file? task with
    | none => pure (.ok [])
    | some path => pure ((← attempt (IO.FS.readBinFile path)).map (·.toList))
  let log ← IO.getEnv logVariable
  let terminal ← (← IO.getStdout).isTty
  return {
    fileBytes := fun _ => bytes
    bindFault := fun _ => none
    connectFault := fun _ _ => none
    sendResults := []
    arrivals := fun _ => []
    silence := none
    log
    terminal }

/-- Ends the program. -/
def exit : Ending → IO UInt32
  | .failed failure => do
      IO.eprintln s!"error: {failure.message}"
      return UInt32.ofNat failure.code.toNat
  | _ => return UInt32.ofNat ExitCode.success.toNat

/-- Does a task. -/
def run (task : Task) (format : Option Report.Format) : IO UInt32 := do
  let world ← worldOf task
  if let some directives := world.unsoundLog? then
    IO.eprintln s!"warning: ignoring {logVariable}={Text.quote directives}: unsound directive"
  let format := format.getD (.standard world.terminal)
  match task with
  | .receive arguments => exit (← receive world arguments format)
  | .send arguments =>
      let outcome ← send world arguments format
      write outcome.printed
      exit outcome.ending
  | task =>
      let outcome := task.run world format
      write outcome.printed
      exit outcome.ending

end FrameLink.Console

/-- The program. -/
def main (words : List String) : IO UInt32 := do
  match FrameLink.Command.Invocation.ofWords? words with
  | none =>
      IO.eprintln s!"usage: {FrameLink.Command.programName} [OPTIONS] send|recv|session|version"
      return UInt32.ofNat FrameLink.Command.ExitCode.usageText.toNat
  | some .version =>
      FrameLink.Console.write FrameLink.Command.versionLine
      return UInt32.ofNat FrameLink.Command.ExitCode.success.toNat
  | some (.run task format) => FrameLink.Console.run task format

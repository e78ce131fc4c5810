import FrameLink.Command.Session
import FrameLink.Stream.Reader

/-!
# The receiving command

Deliveries are printed as they come, until their count is reached or nothing has come for too long.
A receive under way is a value that takes one arrival after the other.
-/

namespace FrameLink.Command

open FrameLink.Transport (IoError UdpEndpoint)

/-! ## Planning -/

/-- What is known before anything comes: how long silence may last, and the setup of the
receiver. -/
structure ReceivePlan where
  patience : Option Duration
  config : ReceiverConfig
  deriving DecidableEq, Repr

/-- Prepares a receive: the duration first, then the session. -/
def planReceive (arguments : ReceiveArguments) : Except Failure ReceivePlan := do
  let patience ←
    match arguments.timeout with
    | none => .ok none
    | some text => (Duration.ofText text).map some
  let session ← readSessionText arguments.session
  .ok {
    patience
    config := { session.receiverConfig with maxFrameSize := arguments.maxFrameSize } }

/-! ## Receiving -/

/-- A receive under way. -/
structure Receiving where
  endpoint : UdpEndpoint
  reader : Reader
  /-- The number of deliveries that were printed. -/
  printed : Nat
  deriving DecidableEq, Repr

/-- How far a receive has come. -/
inductive Progress where
  | going
  | complete
  | broken (error : FrameError)
  deriving DecidableEq, Repr

namespace Receiving

/-- A receive to which nothing has come yet. Its end is bound and has no peer, so it hears whatever
arrives. -/
def fresh (plan : ReceivePlan) : Receiving where
  endpoint := .create .blocking none .default
  reader := .create plan.config
  printed := 0

/-- Whether what was found only says that nothing has come yet. -/
def isSilence (receiving : Receiving) : Except IoError Bytes → Bool
  | .ok _ => false
  | .error failure =>
      receiving.endpoint.retries failure || failure.kind = .wouldBlock || failure.kind = .timedOut

/-- Takes what a receive found, and gives what is printed of it. -/
def take (receiving : Receiving) (arguments : ReceiveArguments) (format : Report.Format)
    (found : Except IoError Bytes) : Progress × Bytes × Receiving :=
  if receiving.isSilence found then (.going, [], receiving)
  else
    let (result, endpoint) := receiving.endpoint.hear found
    match receiving.reader.take result with
    | (none, reader) => (.going, [], { receiving with endpoint, reader })
    | (some (.error error), reader) => (.broken error, [], { receiving with endpoint, reader })
    | (some (.ok delivery), reader) =>
        let printed := receiving.printed + 1
        (if arguments.count.any (· ≤ printed) then .complete else .going,
          Report.delivery delivery format, ⟨endpoint, reader, printed⟩)

/-- Takes arrivals until the receive is over. -/
def takeAll (receiving : Receiving) (arguments : ReceiveArguments) (format : Report.Format)
    (output : Bytes) : List (Except IoError Bytes) → Progress × Bytes × Receiving
  | [] => (.going, output, receiving)
  | found :: rest =>
      match receiving.take arguments format found with
      | (.going, more, receiving) =>
          receiving.takeAll arguments format (output ++ more) rest
      | (progress, more, receiving) => (progress, output ++ more, receiving)

/-- The counters at the end, where they are asked for. -/
def report (receiving : Receiving) (arguments : ReceiveArguments) (format : Report.Format) :
    Bytes :=
  if arguments.stats then Report.counters receiving.reader.counters format else []

/-- What is printed at the end, and how a receive ends that has come so far when silence lasted too
long. -/
def finish (receiving : Receiving) (arguments : ReceiveArguments) (format : Report.Format) :
    Progress → Bytes × Ending
  | .going => (receiving.report arguments format, .failed ⟨.timeout, "receive timed out"⟩)
  | .complete => (receiving.report arguments format, .finished)
  | .broken error => ([], .failed (.ofFrame "receive failed" error))

end Receiving

/-- Whether a receive is still waiting at the end of a silence: one that never loses patience always
is, and one that does is not at the end of a silence that has none. -/
def ReceivePlan.waitsThrough (plan : ReceivePlan) (silence : Option Duration) : Bool :=
  match plan.patience, silence with
  | none, _ => true
  | some _, none => false
  | some patience, some silence => silence.milliseconds < patience.milliseconds

/-- Receives what comes to an open end, and then the silence. -/
def ReceivePlan.run (plan : ReceivePlan) (arguments : ReceiveArguments)
    (arrivals : List (Except IoError Bytes)) (silence : Option Duration)
    (format : Report.Format) : Outcome :=
  match (Receiving.fresh plan).takeAll arguments format [] arrivals with
  | (progress, output, receiving) =>
      if progress = .going ∧ plan.waitsThrough silence then ⟨output, .waiting, []⟩
      else
        let (last, ending) := receiving.finish arguments format progress
        ⟨output ++ last, ending, []⟩

/-- The receiving command. -/
def runReceive (world : World) (arguments : ReceiveArguments) (format : Report.Format) : Outcome :=
  match planReceive arguments with
  | .error failure => .failed failure
  | .ok plan =>
      match world.bindFault arguments.bind with
      | some fault => .failed (.ofTransport "bind failed" (.bind arguments.bind fault))
      | none => plan.run arguments (world.arrivals arguments.bind) world.silence format

end FrameLink.Command

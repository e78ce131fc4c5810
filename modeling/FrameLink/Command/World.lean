import FrameLink.Command.Duration
import FrameLink.Transport.Udp

/-!
# The world of a command

What a command finds outside of itself, and what it leaves behind. A command is a function from the
one to the other: which files there are, which addresses can be bound and reached, and what sending
and receiving will find are all said beforehand.
-/

namespace FrameLink.Command

open FrameLink.Transport (Address IoError)

/-- What a command finds outside of itself. -/
structure World where
  /-- The bytes of a file. -/
  fileBytes : String → Except IoError Bytes
  /-- Why an address cannot be bound. -/
  bindFault : Address → Option IoError
  /-- Why an address, given first, cannot reach another. -/
  connectFault : Address → Address → Option IoError
  /-- What the coming sends find; behind the list every send succeeds. -/
  sendResults : List (Option IoError)
  /-- What the receives at an address find; behind the list nothing comes. -/
  arrivals : Address → List (Except IoError Bytes)
  /-- How long the silence behind the arrivals lasts, where it has an end. -/
  silence : Option Duration
  /-- The log directives of the environment. -/
  log : Option String
  /-- Whether reports go to a terminal. -/
  terminal : Bool

/-- How a command ends; one that waits for datagrams may not have ended when its world does. -/
inductive Ending where
  | finished
  | failed (failure : Failure)
  | waiting
  deriving DecidableEq, Repr

/-- What a command did. -/
structure Outcome where
  printed : Bytes
  ending : Ending
  /-- The datagrams that went out. -/
  wire : List Bytes
  deriving DecidableEq, Repr

namespace Outcome

/-- A command that ends before it did anything. -/
def failed (failure : Failure) : Outcome :=
  ⟨[], .failed failure, []⟩

/-- A command that prints and ends. -/
def finished (printed : Bytes) : Outcome :=
  ⟨printed, .finished, []⟩

end Outcome

end FrameLink.Command

import FrameLink.Sender.Basic

/-!
# Pushing packets

A frame goes out packet by packet, and each push may fail. A failure drops what is left of the
frame; an announcement that was riding on it stays due, so that the next frame carries it again.
-/

namespace FrameLink

open FrameLink.Transport (TransportError)

/-- A way to hand a packet over, in a state of whatever takes it. -/
abbrev Push (σ : Type) := Packet → σ → Except TransportError Unit × σ

/-- How far a run of pushes came: the number of packets taken, and the failure that ended it. -/
structure Pushed where
  sent : Nat
  failure : Option TransportError
  deriving DecidableEq, Repr

/-- Hands packets over in order until one is refused. -/
def pushAll {σ : Type} (push : Push σ) : List Packet → σ → Pushed × σ
  | [], state => (⟨0, none⟩, state)
  | packet :: rest, state =>
      match push packet state with
      | (.error failure, state) => (⟨0, some failure⟩, state)
      | (.ok (), state) =>
          let (pushed, state) := pushAll push rest state
          (⟨pushed.sent + 1, pushed.failure⟩, state)

namespace Sender

/-- Sends a frame, and tells how many packets went out. -/
def send {σ : Type} (push : Push σ) (sender : Sender) (frame : Frame) (state : σ) :
    Except FrameError Nat × Sender × σ :=
  let sender := sender.adopt frame
  match sender.packets frame with
  | .error error => (.error error, sender, state)
  | .ok packets =>
      match pushAll push packets state with
      | (⟨sent, none⟩, state) => (.ok sent, sender.settled, state)
      | (⟨sent, some failure⟩, state) => (.error (.pushFailed sent failure), sender, state)

/-- Takes packets down until as many have come as are wanted, and refuses the next one. -/
def recording (wanted : Nat) (failure : TransportError) : Push (Array Packet) :=
  fun packet taken =>
    if wanted = taken.size then (.error failure, taken)
    else (.ok (), taken.push packet)

end Sender

end FrameLink

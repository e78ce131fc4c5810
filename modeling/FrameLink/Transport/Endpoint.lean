import FrameLink.Carrier.Datagram

/-!
# Ends of a transport

What the framing layer needs of a transport: one end that takes datagrams, and one that gives them.
A source says how many results it still holds, so that reading it until something comes out is a
recursion that ends.
-/

namespace FrameLink.Transport

/-- A state that takes datagrams. -/
class DatagramSink (σ : Type) where
  /-- Pushes a datagram towards the peer. -/
  send : Datagram → σ → Except TransportError Unit × σ

/-- Whether a result used something up: a datagram, or one that was unusable. -/
def consumes : Except TransportError Datagram → Bool
  | .ok _ => true
  | .error error => error.isMalformed

/-- A state that gives datagrams. -/
class DatagramSource (σ : Type) where
  /-- Pulls the next datagram. -/
  receive : σ → Except TransportError Datagram × σ
  /-- A bound on the results that still use something up. -/
  backlog : σ → Nat
  /-- A result that uses something up lowers the bound. -/
  backlog_receive : ∀ source, consumes (receive source).1 = true →
    backlog (receive source).2 < backlog source

/-- A source that gives prepared results, and is closed behind them. -/
structure Script where
  results : List (Except TransportError Datagram)

instance : DatagramSource Script where
  receive
    | ⟨[]⟩ => (.error .closed, ⟨[]⟩)
    | ⟨result :: rest⟩ => (result, ⟨rest⟩)
  backlog script := script.results.length
  backlog_receive := by
    rintro ⟨results⟩ used
    cases results with
    | nil => simp [consumes, TransportError.isMalformed] at used
    | cons result rest => simp

end FrameLink.Transport

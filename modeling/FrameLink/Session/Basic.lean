import FrameLink.Receiver.Basic
import FrameLink.Sender.Basic

/-!
# Sessions

What both ends agree on before any packet flows: the format of version 0, the size of packets, and
the rate of the media clock.
-/

namespace FrameLink

/-- The agreement of both ends. -/
structure Session where
  descriptor : Option String
  mtu : Nat
  clockRate : Nat
  deriving DecidableEq, Repr

namespace Session

/-- The agreement where nothing is said. -/
def default : Session where
  descriptor := none
  mtu := defaultMtu
  clockRate := CarrierHeader.defaultClockRate

/-- The format of version 0. -/
def initial (session : Session) : Option FormatDescriptor :=
  session.descriptor.map fun text => ⟨text⟩

/-- The setup of the sender. -/
def senderConfig (session : Session) : SenderConfig :=
  ⟨session.mtu, session.initial⟩

/-- The setup of the receiver. -/
def receiverConfig (session : Session) : ReceiverConfig :=
  ⟨session.initial, defaultMaxFrameSize⟩

end Session

end FrameLink

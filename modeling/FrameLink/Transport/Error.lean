import FrameLink.Transport.Address
import FrameLink.Transport.System

/-!
# Transport errors

What can go wrong between a datagram and the wire.
-/

namespace FrameLink.Transport

/-- What can go wrong with a datagram or its endpoint. -/
inductive TransportError where
  | bind (address : Address) (source : IoError)
  | connect (address : Address) (source : IoError)
  | io (source : IoError)
  | datagramTooShort (length least : Nat)
  | unsupportedVersion (version : Nat)
  | datagramTooLarge (size most : Nat)
  | datagramTruncated (most : Nat)
  | closed
  deriving DecidableEq, Repr

namespace TransportError

/-- The wording of an error. -/
def message : TransportError → String
  | .bind address source => s!"failed to bind to {address.toText}: {source.message}"
  | .connect address source => s!"failed to connect to {address.toText}: {source.message}"
  | .io source => s!"transport I/O error: {source.message}"
  | .datagramTooShort length least => s!"datagram too short ({length} bytes, min {least})"
  | .unsupportedVersion version => s!"unsupported carrier version {version}"
  | .datagramTooLarge size most => s!"datagram too large ({size} bytes, max {most})"
  | .datagramTruncated most => s!"received datagram exceeds {most} bytes"
  | .closed => "transport closed"

/-- Whether one received datagram was unusable while the transport itself is in order. -/
def isMalformed : TransportError → Bool
  | .datagramTooShort _ _ => true
  | .unsupportedVersion _ => true
  | .datagramTruncated _ => true
  | _ => false

end TransportError

end FrameLink.Transport

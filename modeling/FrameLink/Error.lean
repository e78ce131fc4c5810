import FrameLink.Session.Fault
import FrameLink.Transport.Error
import FrameLink.Varint

/-!
# Errors of the framing layer

Everything that can go wrong while frames are cut into packets or put together again. Errors of
reassembly cost the frame they hit and nothing else; `FrameError.isRecoverable` tells them apart.
-/

namespace FrameLink

open FrameLink.Transport (TransportError)

/-- Why bytes hold no packet header. -/
inductive HeaderFault where
  | truncated
  | reservedBits (value : Nat)
  deriving DecidableEq, Repr

/-- Why an inlined format descriptor could not be read. -/
inductive DescriptorFault where
  | length (fault : Varint.Fault)
  | notUtf8 (fault : Utf8.Fault)
  | stated (reason : String)
  deriving DecidableEq, Repr

/-- Why an event could not be read. -/
inductive EventFault where
  | length (fault : Varint.Fault)
  | notUtf8 (fault : Utf8.Fault)
  | unknownKind (name : String)
  | stated (reason : String)
  deriving DecidableEq, Repr

/-- What can go wrong with a frame. -/
inductive FrameError where
  | length (fault : Varint.Fault)
  | header (fault : HeaderFault)
  | fragmentMismatch (expected got : Nat)
  | malformedDescriptor (fault : DescriptorFault)
  | malformedEvent (fault : EventFault)
  | unknownEventType (value : Nat)
  | missingFormatVersion (version : Nat)
  | invalidFormatVersion (value : Nat)
  | frameTooLarge (size most : Nat)
  | mtuTooSmall (mtu least : Nat)
  | pushFailed (sent : Nat) (source : TransportError)
  | invalidSession (fault : Session.Fault)
  | transport (source : TransportError)
  deriving DecidableEq, Repr

/-- The wording of a header fault. -/
def HeaderFault.message : HeaderFault → String
  | .truncated => "truncated input"
  | .reservedBits value =>
      s!"reserved header bytes must be zero (got 0x{String.ofList (Text.hexWord 4 value)})"

/-- The wording of a descriptor fault. -/
def DescriptorFault.message : DescriptorFault → String
  | .length fault => fault.message
  | .notUtf8 fault => s!"not utf-8: {fault.message}"
  | .stated reason => reason

/-- The wording of an event fault. -/
def EventFault.message : EventFault → String
  | .length fault => fault.message
  | .notUtf8 fault => s!"body is not utf-8: {fault.message}"
  | .unknownKind name => s!"unknown event kind {Text.quote name}"
  | .stated reason => reason

namespace FrameError

/-- The wording of an error. -/
def message : FrameError → String
  | .length fault => fault.message
  | .header fault => fault.message
  | .fragmentMismatch expected got =>
      s!"fragment offset {got} does not match expected {expected}"
  | .malformedDescriptor fault => s!"malformed format descriptor: {fault.message}"
  | .malformedEvent fault => s!"malformed event: {fault.message}"
  | .unknownEventType value => s!"unknown event type {value}"
  | .missingFormatVersion version =>
      s!"format version {version} referenced before being announced"
  | .invalidFormatVersion value => s!"invalid format version {value} (must be 0-7)"
  | .frameTooLarge size most => s!"frame too large ({size} bytes, max {most})"
  | .mtuTooSmall mtu least => s!"mtu {mtu} too small (must exceed the {least}-byte header)"
  | .pushFailed sent source =>
      s!"transport push failed after {sent} of the frame's packets: {source.message}"
  | .invalidSession fault => s!"invalid session description: {fault.message}"
  | .transport source => s!"transport error: {source.message}"

/-- Whether an error costs only the frame that is being put together. -/
def isRecoverable : FrameError → Bool
  | .transport source => source.isMalformed
  | .mtuTooSmall _ _ => false
  | .pushFailed _ _ => false
  | .invalidSession _ => false
  | _ => true

end FrameError

end FrameLink

import FrameLink.Text.Utf8
import FrameLink.Text.Quoted

/-!
# Format descriptors

The description of a format is text that nobody here looks into; two are compared only to see
whether a format has to be announced.
-/

namespace FrameLink

/-- The description of a format. -/
structure FormatDescriptor where
  text : String
  deriving DecidableEq, Repr

namespace FormatDescriptor

/-- The bytes of a description. -/
def bytes (descriptor : FormatDescriptor) : Bytes :=
  Utf8.encode descriptor.text

/-- The number of bytes of a description. -/
def size (descriptor : FormatDescriptor) : Nat :=
  descriptor.bytes.length

/-- Whether a description is empty. -/
def isEmpty (descriptor : FormatDescriptor) : Bool :=
  descriptor.text.isEmpty

/-- A description in quotes. -/
def quoted (descriptor : FormatDescriptor) : String :=
  Text.quote descriptor.text

end FormatDescriptor

end FrameLink

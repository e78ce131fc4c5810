/-!
# Failures of the operating system

What a call to the operating system may fail with: a kind that programs tell apart, and the words
of the system, which come with its number for the failure.
-/

namespace FrameLink.Transport

/-- The kinds of failure that are told apart. -/
inductive IoKind where
  | permissionDenied
  | timedOut
  | wouldBlock
  | addressInUse
  | addressNotAvailable
  | connectionRefused
  | brokenPipe
  | notFound
  | interrupted
  | unexpectedEnd
  | networkUnreachable
  | other
  deriving DecidableEq, Repr

/-- The wording of a kind. -/
def IoKind.message : IoKind → String
  | .permissionDenied => "permission denied"
  | .timedOut => "timed out"
  | .wouldBlock => "operation would block"
  | .addressInUse => "address in use"
  | .addressNotAvailable => "address not available"
  | .connectionRefused => "connection refused"
  | .brokenPipe => "broken pipe"
  | .notFound => "entity not found"
  | .interrupted => "operation interrupted"
  | .unexpectedEnd => "unexpected end of file"
  | .networkUnreachable => "network unreachable"
  | .other => "other error"

/-- A failure: its kind, and the words of the system where it gave any. -/
structure IoError where
  kind : IoKind
  detail : Option String
  deriving DecidableEq, Repr

namespace IoError

/-- A failure of which only the kind is known. -/
def ofKind (kind : IoKind) : IoError :=
  ⟨kind, none⟩

/-- A failure that the system numbers. -/
structure Entry where
  code : Nat
  kind : IoKind
  text : String
  deriving DecidableEq, Repr

/-- The failures that commands meet, by their numbers. -/
def entries : List Entry := [
  ⟨1, .permissionDenied, "Operation not permitted"⟩,
  ⟨2, .notFound, "No such file or directory"⟩,
  ⟨4, .interrupted, "Interrupted system call"⟩,
  ⟨5, .other, "Input/output error"⟩,
  ⟨6, .other, "No such device or address"⟩,
  ⟨11, .wouldBlock, "Resource temporarily unavailable"⟩,
  ⟨13, .permissionDenied, "Permission denied"⟩,
  ⟨19, .other, "No such device"⟩,
  ⟨20, .other, "Not a directory"⟩,
  ⟨21, .other, "Is a directory"⟩,
  ⟨22, .other, "Invalid argument"⟩,
  ⟨32, .brokenPipe, "Broken pipe"⟩,
  ⟨36, .other, "File name too long"⟩,
  ⟨40, .other, "Too many levels of symbolic links"⟩,
  ⟨90, .other, "Message too long"⟩,
  ⟨97, .other, "Address family not supported by protocol"⟩,
  ⟨98, .addressInUse, "Address already in use"⟩,
  ⟨99, .addressNotAvailable, "Cannot assign requested address"⟩,
  ⟨101, .networkUnreachable, "Network is unreachable"⟩,
  ⟨110, .timedOut, "Connection timed out"⟩,
  ⟨111, .connectionRefused, "Connection refused"⟩]

/-- The failure with a number; its words carry the number with them. -/
def ofCode (code : Nat) : IoError :=
  let entry := (entries.find? (·.code = code)).getD ⟨code, .other, s!"Unknown error {code}"⟩
  ⟨entry.kind, some s!"{entry.text} (os error {code})"⟩

/-- The wording of a failure. -/
def message (error : IoError) : String :=
  error.detail.getD error.kind.message

end IoError

end FrameLink.Transport

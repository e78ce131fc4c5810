import FrameLink.Json.Numeral
import FrameLink.Text.Base64
import FrameLink.Text.Quoted
import FrameLink.Text.Utf8

/-!
# Faults of session texts

Why a text describes no session, one cause for each thing that a reader may object to.
-/

namespace FrameLink.Session

/-! ## What was found and what was wanted -/

/-- A JSON value as an objection names it. -/
inductive Found where
  | null
  | bool (value : Bool)
  | natural (value : Nat)
  | negative (magnitude : Nat)
  | float (below : Bool) (magnitude : Number.Binary64)
  | string (text : String)
  | sequence
  | map
  deriving DecidableEq, Repr

/-- The wording of what was found. -/
def Found.message : Found → String
  | .null => "null"
  | .bool value => s!"boolean `{value}`"
  | .natural value => s!"integer `{value}`"
  | .negative magnitude => s!"integer `-{magnitude}`"
  | .float below magnitude => s!"floating point `{Json.floatText below magnitude}`"
  | .string text => s!"string {Text.quote text}"
  | .sequence => "sequence"
  | .map => "map"

/-- What a place in the description takes. -/
inductive Expected where
  | text
  | size
  | rate
  | session
  deriving DecidableEq, Repr

/-- The wording of what was wanted. -/
def Expected.message : Expected → String
  | .text => "a string"
  | .size => "usize"
  | .rate => "u32"
  | .session => "struct SessionDescription"

/-- A member of a description. -/
inductive Field where
  | descriptor
  | mtu
  | clockRate
  deriving DecidableEq, Repr

/-- The name of a member. -/
def Field.name : Field → String
  | .descriptor => "descriptor"
  | .mtu => "mtu"
  | .clockRate => "clock_rate"

/-! ## Causes -/

/-- Why a text is no JSON description. -/
inductive JsonFault where
  | malformed
  | wrongType (found : Found) (expected : Expected)
  | wrongValue (found : Found) (expected : Expected)
  | duplicate (field : Field)
  deriving DecidableEq, Repr

/-- The wording of a JSON fault. -/
def JsonFault.message : JsonFault → String
  | .malformed => "malformed JSON"
  | .wrongType found expected => s!"invalid type: {found.message}, expected {expected.message}"
  | .wrongValue found expected => s!"invalid value: {found.message}, expected {expected.message}"
  | .duplicate field => s!"duplicate field `{field.name}`"

/-- Why a text describes no session. -/
inductive Fault where
  | withoutValue (segment : String)
  | capsNotBase64 (fault : Base64.Fault)
  | capsNotUtf8 (fault : Utf8.Fault)
  | invalidNumber (key value : String)
  | capsVersion (version : Nat)
  | json (fault : JsonFault)
  | stated (reason : String)
  deriving DecidableEq, Repr

/-- The wording of a fault. -/
def Fault.message : Fault → String
  | .withoutValue segment => s!"attribute {Text.quote segment} has no value"
  | .capsNotBase64 fault => s!"caps is not base64: {fault.message}"
  | .capsNotUtf8 fault => s!"caps is not utf-8: {fault.message}"
  | .invalidNumber key value => s!"invalid {key} {Text.quote value}"
  | .capsVersion version => s!"capsversion must be 0 for session setup, got {version}"
  | .json fault => fault.message
  | .stated reason => reason

end FrameLink.Session

import FrameLink.Command.Failure
import FrameLink.Text.Blank

/-!
# Durations

A duration is written as a number of seconds or, with `ms` behind it, of milliseconds.
-/

namespace FrameLink.Command

/-- A span of time. -/
structure Duration where
  milliseconds : Nat
  deriving DecidableEq, Repr

namespace Duration

/-- The full seconds of a duration. -/
def seconds (duration : Duration) : Nat :=
  duration.milliseconds / 1000

/-- What a duration has beyond full seconds. -/
def restMilliseconds (duration : Duration) : Nat :=
  duration.milliseconds % 1000

/-- A unit, by the milliseconds that it takes. -/
structure Unit where
  suffix : List Char
  milliseconds : Nat

/-- The units, the longer suffix first. -/
def units : List Unit :=
  [⟨['m', 's'], 1⟩, ⟨['s'], 1000⟩, ⟨[], 1000⟩]

/-- What stands in front of an ending, where the text has it. -/
def dropSuffix? (ending text : List Char) : Option (List Char) :=
  if ending.isSuffixOf text then some (text.take (text.length - ending.length)) else none

/-- The number in a text and the milliseconds of its unit, which is that of the first suffix that
the text has. -/
def splitUnit (text : List Char) : List Char × Nat :=
  (units.findSome? fun unit =>
    (dropSuffix? unit.suffix text).map fun number => (number, unit.milliseconds)).getD (text, 1000)

/-- The duration that a text stands for. -/
def ofText (input : String) : Except Failure Duration :=
  let text := Text.trim input.toList
  if text.isEmpty then .error ⟨.usage, "duration must not be empty"⟩
  else
    let (number, unit) := splitUnit text
    match Text.readUnsigned? Text.limit64 number with
    | none => .error ⟨.usage, s!"invalid duration value: {String.ofList text}"⟩
    | some value =>
        if value = 0 then .error ⟨.usage, "duration must be greater than zero"⟩
        else .ok ⟨value * unit⟩

end Duration

end FrameLink.Command

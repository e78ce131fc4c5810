import FrameLink.Text.Decimal
import FrameLink.Transport.Address

/-!
# Command line words

Sorting the words of a command line into options with a value, flags and positional words. A value
stands behind an equals sign or in the next word, an option may be given once, and behind two
dashes every word is positional.
-/

namespace FrameLink.Command

/-- The options that a command knows. -/
structure Known where
  valued : List String
  flags : List String
  deriving DecidableEq, Repr

/-- The words of a command line, sorted. -/
structure Words where
  values : List (String × String)
  flags : List String
  positionals : List String
  deriving DecidableEq, Repr

namespace Words

/-- No word yet. -/
def empty : Words := ⟨[], [], []⟩

/-- The value of an option. -/
def value? (words : Words) (name : String) : Option String :=
  words.values.lookup name

/-- Whether a flag is set. -/
def has (words : Words) (name : String) : Bool :=
  words.flags.contains name

/-- Adds the value of an option that has none yet. -/
def addValue? (words : Words) (name value : String) : Option Words :=
  if (words.value? name).isSome then none
  else some { words with values := words.values ++ [(name, value)] }

/-- Sets a flag that is not set yet. -/
def addFlag? (words : Words) (name : String) : Option Words :=
  if words.has name then none else some { words with flags := words.flags ++ [name] }

/-- Adds a positional word. -/
def addPositional (words : Words) (word : String) : Words :=
  { words with positionals := words.positionals ++ [word] }

end Words

/-- A word by its shape. -/
inductive Shape where
  /-- Two dashes alone. -/
  | separator
  /-- An option, and the value that is attached to it. -/
  | option (name : String) (attached : Option String)
  /-- One dash and letters, which no command knows. -/
  | short
  | plain
  deriving DecidableEq, Repr

/-- Splits an option at its equals sign. -/
def splitOption (name : List Char) : Shape :=
  let front := name.takeWhile (· != '=')
  match name.dropWhile (· != '=') with
  | [] => .option (String.ofList front) none
  | _ :: value => .option (String.ofList front) (some (String.ofList value))

/-- The shape of a word. -/
def Shape.of (word : String) : Shape :=
  match word.toList with
  | ['-', '-'] => .separator
  | '-' :: '-' :: name => splitOption name
  | '-' :: _ :: _ => .short
  | _ => .plain

/-- Sorts words behind those that have been sorted. -/
def sortWords (known : Known) (sorted : Words) : List String → Option Words
  | [] => some sorted
  | word :: rest =>
      match Shape.of word with
      | .separator => some { sorted with positionals := sorted.positionals ++ rest }
      | .short => none
      | .plain => sortWords known (sorted.addPositional word) rest
      | .option name (some value) =>
          if known.valued.contains name then
            match sorted.addValue? name value with
            | none => none
            | some sorted => sortWords known sorted rest
          else none
      | .option name none =>
          if known.flags.contains name then
            match sorted.addFlag? name with
            | none => none
            | some sorted => sortWords known sorted rest
          else if known.valued.contains name then
            match rest with
            | [] => none
            | value :: rest =>
                if Shape.of value = .plain then
                  match sorted.addValue? name value with
                  | none => none
                  | some sorted => sortWords known sorted rest
                else none
          else none

/-! ## Values -/

/-- An unsigned number of 64 bits. -/
def size? (text : String) : Option Nat :=
  Text.readUnsigned? Text.limit64 text.toList

/-- An unsigned number of 32 bits; zero may have a minus sign. -/
def word? (text : String) : Option Nat :=
  match text.toList with
  | '-' :: digits => (Text.readDigits? Text.limit32 digits).filter (· = 0)
  | digits => Text.readUnsigned? Text.limit32 digits

/-- Reads the value of an option, where it is given. -/
def readValue {α : Type} (words : Words) (name : String) (read : String → Option α) :
    Option (Option α) :=
  match words.value? name with
  | none => some none
  | some text => (read text).map some

/-- Reads the value of an option that has a default. -/
def readValueOr {α : Type} (words : Words) (name : String) (read : String → Option α)
    (default : α) : Option α :=
  (readValue words name read).map (·.getD default)

end FrameLink.Command

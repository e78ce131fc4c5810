import FrameLink.Json.Token

/-!
# Skipping a JSON value

A value that nobody asked for still has to be JSON. Skipping one keeps the stack of open brackets
and what may come next, so values of any depth are skipped in one pass over the tokens.
-/

namespace FrameLink.Json

/-- An open bracket. -/
inductive Bracket where
  | array
  | object
  deriving DecidableEq, Repr

/-- What may come next inside a value that is being skipped. -/
inductive Awaiting where
  | value
  | valueOrClose
  | key
  | keyOrClose
  | colon
  | commaOrClose
  deriving DecidableEq, Repr

/-- How far skipping has come: the brackets that are open, and what may come next. -/
structure Progress where
  brackets : List Bracket
  awaiting : Awaiting
  deriving DecidableEq, Repr

/-- What a token does to a value that is being skipped. -/
inductive SkipStep where
  | refused
  | finished
  | going (progress : Progress)
  deriving DecidableEq, Repr

namespace SkipStep

/-- What follows a value inside the given brackets. -/
def afterValue : List Bracket → SkipStep
  | [] => .finished
  | bracket :: outer => .going ⟨bracket :: outer, .commaOrClose⟩

/-- A token that has to open a value. -/
def openValue (brackets : List Bracket) : Token → SkipStep
  | .openBracket => .going ⟨.array :: brackets, .valueOrClose⟩
  | .openBrace => .going ⟨.object :: brackets, .keyOrClose⟩
  | .null => afterValue brackets
  | .bool _ => afterValue brackets
  | .number _ => afterValue brackets
  | .string _ => afterValue brackets
  | _ => .refused

/-- A closing bracket has to close the innermost open one. -/
def close (bracket : Bracket) : List Bracket → SkipStep
  | [] => .refused
  | innermost :: outer => if innermost = bracket then afterValue outer else .refused

/-- A comma continues the innermost open bracket. -/
def afterComma : List Bracket → SkipStep
  | [] => .refused
  | .array :: outer => .going ⟨.array :: outer, .value⟩
  | .object :: outer => .going ⟨.object :: outer, .key⟩

end SkipStep

/-- What a token does. -/
def Progress.step (progress : Progress) (token : Token) : SkipStep :=
  match progress.awaiting, token with
  | .value, token => .openValue progress.brackets token
  | .valueOrClose, .closeBracket => .close .array progress.brackets
  | .valueOrClose, token => .openValue progress.brackets token
  | .key, .string _ => .going ⟨progress.brackets, .colon⟩
  | .keyOrClose, .string _ => .going ⟨progress.brackets, .colon⟩
  | .keyOrClose, .closeBrace => .close .object progress.brackets
  | .colon, .colon => .going ⟨progress.brackets, .value⟩
  | .commaOrClose, .comma => .afterComma progress.brackets
  | .commaOrClose, .closeBracket => .close .array progress.brackets
  | .commaOrClose, .closeBrace => .close .object progress.brackets
  | _, _ => .refused

/-- The tokens behind a value that has come as far as given. -/
def skipFrom (progress : Progress) : List Token → Option (List Token)
  | [] => none
  | token :: rest =>
      match progress.step token with
      | .refused => none
      | .finished => some rest
      | .going progress => skipFrom progress rest

/-- The tokens behind the value that comes next. -/
def skipValue? (tokens : List Token) : Option (List Token) :=
  skipFrom ⟨[], .value⟩ tokens

/-- A value takes a token at least. -/
theorem length_of_skipFrom {progress : Progress} {tokens rest : List Token}
    (skipped : skipFrom progress tokens = some rest) : rest.length < tokens.length := by
  induction tokens generalizing progress with
  | nil => simp [skipFrom] at skipped
  | cons token tokens ih =>
      simp only [skipFrom] at skipped
      split at skipped
      · simp at skipped
      · simp only [Option.some.injEq] at skipped
        simp [skipped]
      · have shorter := ih skipped
        simp only [List.length_cons]
        omega

end FrameLink.Json

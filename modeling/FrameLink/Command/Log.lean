import FrameLink.Text.Decimal

/-!
# Log directives

Directives that set the level of parts of the program, between commas: a level alone, a part
alone, or a part and its level with an equals sign between them. One unsound directive makes the
whole list unsound.
-/

namespace FrameLink.Command.Log

/-- The names of levels. -/
def levelNames : List String :=
  ["", "off", "error", "warn", "info", "debug", "trace"]

/-- Whether a text names a level, by a name in any case or by a number up to five. -/
def isLevel (text : List Char) : Bool :=
  let lower := String.ofList (text.map Char.toLower)
  levelNames.contains lower || (Text.readUnsigned? 6 text).isSome

/-- The texts between the places where fields open. -/
def splitFields (text : List Char) : List (List Char) :=
  match text with
  | [] => [[]]
  | '[' :: '\x7b' :: rest => [] :: splitFields rest
  | char :: rest =>
      match splitFields rest with
      | [] => [[char]]
      | part :: parts => (char :: part) :: parts

/-- Whether the part of a directive is sound: at most one list of fields, closed at its end. -/
def isPart (text : List Char) : Bool :=
  match splitFields text with
  | [_] => true
  | [_, fields] => ['\x7d', ']'].isSuffixOf fields
  | _ => false

/-- Whether a directive is sound. -/
def isDirective (text : List Char) : Bool :=
  match text.splitOn '=' with
  | [_] => true
  | [part, level] => isPart part && isLevel level
  | _ => false

/-- Whether a list of directives is sound. -/
def isSound (text : List Char) : Bool :=
  (text.splitOn ',').all isDirective

end FrameLink.Command.Log

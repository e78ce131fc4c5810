import FrameLink.Text.Ligature

/-!
# Columns of a terminal

How many columns a line of text takes on a terminal.
-/

namespace FrameLink.Text

/-- What stands behind a character: what it may meet there, and the selectors of a style. -/
structure Behind where
  trail : Trail
  pictureStyle : Bool
  textStyle : Bool
  /-- The style in which a quotation mark is as wide as an ideograph. -/
  wideStyle : Bool
  deriving DecidableEq, Repr

namespace Behind

/-- A trail without any selector. -/
def of (trail : Trail) : Behind := ⟨trail, false, false, false⟩

/-- Nothing to meet. -/
def nothing : Behind := of .plain

/-- What a selector for pictures leaves. -/
def selectPicture (behind : Behind) : Behind :=
  match behind.trail with
  | .letter _ _ | .joined | .joinedKey => { behind with pictureStyle := true }
  | _ => ⟨.plain, true, false, false⟩

/-- What a selector for text characters leaves. -/
def selectText (behind : Behind) : Behind :=
  match behind.trail with
  | .letter _ _ => { behind with textStyle := true }
  | _ => ⟨.plain, false, true, false⟩

/-- What a selector for wide quotation marks leaves. -/
def selectWide (behind : Behind) : Behind :=
  match behind.trail with
  | .letter _ _ => { behind with wideStyle := true }
  | _ => ⟨.plain, false, false, true⟩

/-- What is left where a selector for pictures found no character that takes it. -/
def missPicture (behind : Behind) : Behind :=
  match behind.pictureStyle, behind.trail with
  | false, _ => behind
  | true, .letter _ _ => { behind with pictureStyle := false }
  | true, _ => nothing

/-- Whether a selected picture is joined to the one behind it. -/
def isJoined (behind : Behind) : Bool :=
  behind.trail = .joined || behind.trail = .joinedKey

end Behind

/-- Whether a character is a quotation mark that a selector behind it makes wide. -/
def takesWideStyle (char : Char) : Bool :=
  inSpans [(0x2018, 0x2019), (0x201C, 0x201D)] char

/-- The columns that a character adds in front of what stands behind it, and what it leaves for
the character before it. -/
def precede (char : Char) (behind : Behind) : Int × Behind :=
  if behind.pictureStyle && takesPictureStyle char then
    (if behind.isJoined then 0 else 2, .of .picture)
  else
    let behind := behind.missPicture
    if char.toNat ≤ 0xA0 then (1, .nothing)
    else if char = pictureSelector then (0, behind.selectPicture)
    else if char = wideSelector then (0, behind.selectWide)
    else if char = textSelector then (0, behind.selectText)
    else if behind.textStyle && takesTextStyle char then (1, .nothing)
    else if behind.wideStyle && takesWideStyle char then (2, .nothing)
    else
      match behind.trail.meet? char with
      | some (added, trail) => (added, .of trail)
      | none => (columns char, .of (.of char))

/-- The columns of a line, and what its first character leaves for one before it. -/
def measure (line : List Char) : Int × Behind :=
  line.foldr (fun char (total, behind) =>
    let (added, behind) := precede char behind
    (total + added, behind)) (0, .nothing)

/-- The columns that a line takes. -/
def lineColumns (line : List Char) : Nat :=
  (measure line).1.toNat

end FrameLink.Text

import FrameLink.Text.Spans

/-!
# Blank characters

The characters with the Unicode property White_Space, and trimming by them.
-/

namespace FrameLink.Text

/-- The spans of the property White_Space. -/
def blankSpans : List (Nat × Nat) :=
  [(0x09, 0x0D), (0x20, 0x20), (0x85, 0x85), (0xA0, 0xA0), (0x1680, 0x1680), (0x2000, 0x200A),
    (0x2028, 0x2029), (0x202F, 0x202F), (0x205F, 0x205F), (0x3000, 0x3000)]

/-- Whether a character has the property White_Space. -/
def isBlank (char : Char) : Bool :=
  inSpans blankSpans char

/-- Drops the characters in the class from the end. -/
def trimEnd (inClass : Char → Bool) (chars : List Char) : List Char :=
  (chars.reverse.dropWhile inClass).reverse

/-- Drops blank characters from both ends. -/
def trim (chars : List Char) : List Char :=
  trimEnd isBlank (chars.dropWhile isBlank)

@[simp] theorem trim_nil : trim [] = [] := rfl

end FrameLink.Text

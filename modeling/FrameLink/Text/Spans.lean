/-!
# Spans of characters

A property of characters as a table: the first and the last code point of each run of characters
that have it, in ascending order.
-/

namespace FrameLink.Text

/-- Whether a character stands in one of the spans. -/
def inSpans : List (Nat × Nat) → Char → Bool
  | [], _ => false
  | (low, high) :: rest, char =>
      low ≤ char.toNat && (char.toNat ≤ high || inSpans rest char)

end FrameLink.Text

import FrameLink.Text.Picture
import FrameLink.Text.Width

/-!
# Characters that share columns

Some characters take fewer columns together than each on its own: letters that meet in one shape,
and signs that make one picture. Lines are read from their end, so that a character finds behind it
what it may meet.
-/

namespace FrameLink.Text

/-! ## Letters -/

/-- The letters that some character before them meets. -/
inductive Letter where
  /-- The Arabic letter that a lam before it bends into. -/
  | alef
  /-- The Hebrew letter that an alef is joined to. -/
  | lamed
  /-- A Khmer letter that is written below the one before it. -/
  | khmer
  /-- The Buginese letter that ends a joined word, alone and with the vowel before it. -/
  | ya
  | vowelYa
  /-- A Tifinagh letter, alone and with the mark that joins it. -/
  | tifinagh
  | joinedTifinagh
  /-- The second letter of a Lisu tone. -/
  | lisuTone
  /-- The Old Turkic letter that another one is joined to. -/
  | orkhonI
  deriving DecidableEq, Repr

/-- The spans of the forms of the Arabic letter alef. -/
def alefSpans : List (Nat × Nat) :=
  [(0x622, 0x623), (0x625, 0x625), (0x627, 0x627), (0x671, 0x673), (0x675, 0x675),
   (0x773, 0x774), (0x870, 0x882)]

/-- The spans of the forms of the Arabic letter lam. -/
def lamSpans : List (Nat × Nat) :=
  [(0x644, 0x644), (0x6b5, 0x6b8), (0x76a, 0x76a), (0x8a6, 0x8a6), (0x8c7, 0x8c7)]

/-- The spans of the Khmer letters whose subscript forms take no column. -/
def khmerSpans : List (Nat × Nat) :=
  [(0x1780, 0x1782), (0x1784, 0x1787), (0x1789, 0x178c), (0x178e, 0x1793), (0x1795, 0x1798),
   (0x179b, 0x179d), (0x17a0, 0x17a0), (0x17a2, 0x17a2), (0x17a7, 0x17a7), (0x17ab, 0x17ac),
   (0x17af, 0x17af)]

/-- The spans of the Tifinagh consonants. -/
def tifinaghSpans : List (Nat × Nat) :=
  [(0x2d31, 0x2d65), (0x2d6f, 0x2d6f)]

/-- The spans of the first letters of a Lisu tone. -/
def lisuSpans : List (Nat × Nat) :=
  [(0xa4f8, 0xa4fb)]

/-- The letter that a character is, where some character before it may meet it. -/
def Letter.of? (char : Char) : Option Letter :=
  if inSpans alefSpans char then some .alef
  else if char.toNat = 0x5DC then some .lamed
  else if inSpans khmerSpans char then some .khmer
  else if char.toNat = 0x1A10 then some .ya
  else if inSpans tifinaghSpans char then some .tifinagh
  else if inSpans [(0xA4FC, 0xA4FD)] char then some .lisuTone
  else if char.toNat = 0x10C03 then some .orkhonI
  else none

/-! ## What stands behind a character -/

/-- What a character may find behind it. -/
inductive Trail where
  /-- Nothing that it could meet. -/
  | plain
  /-- A letter, and whether a joiner stands in front of it. -/
  | letter (letter : Letter) (joined : Bool)
  /-- The vowel signs of Kirat Rai that others are composed with. -/
  | vowelE
  | vowelAi
  /-- A skin tone. -/
  | tone
  /-- A run of letters of flags. -/
  | flags (letters : Nat)
  /-- A picture. -/
  | picture
  /-- A joiner with a picture behind it. -/
  | joined
  /-- The frame of a key, joined to a picture. -/
  | joinedKey
  /-- A run of letters of flags, joined to a picture. -/
  | joinedFlags (letters : Nat)
  /-- The invisible letters and digits behind a flag, joined to a picture. -/
  | joinedTags (letters digits : Nat)
  deriving DecidableEq, Repr

/-- What a character leaves for the one before it. -/
def Trail.of (char : Char) : Trail :=
  match Letter.of? char with
  | some kind => .letter kind false
  | none =>
      if char.toNat = 0x16D67 then .vowelE
      else if char.toNat = 0x16D68 then .vowelAi
      else if isTone char then .tone
      else if isFlagLetter char then .flags 1
      else if isPicture char then .picture
      else .plain

/-- The columns that a character adds, and what it leaves for the one before it. -/
abbrev Meeting := Int × Trail

/-- A character that adds no column and leaves nothing to meet. -/
def Meeting.absorbed : Meeting := (0, .plain)

/-- What a character adds in front of a letter that it meets. -/
def Letter.meet? (letter : Letter) (joined : Bool) (char : Char) : Option Meeting :=
  match letter with
  | .alef =>
      if inSpans lamSpans char then some .absorbed
      else if isTransparent char then some (0, .letter .alef joined)
      else none
  | .lamed => if joined && char.toNat = 0x5D0 then some .absorbed else none
  | .khmer => if char.toNat = 0x17D2 then some (-1, .plain) else none
  | .ya => if joined && char.toNat = 0x1A17 then some (0, .letter .vowelYa joined) else none
  | .vowelYa => if char.toNat = 0x1A15 then some .absorbed else none
  | .tifinagh =>
      if char = tifinaghJoiner then some (1, .letter .joinedTifinagh joined)
      else if joined && inSpans tifinaghSpans char then some .absorbed
      else none
  | .joinedTifinagh => if inSpans tifinaghSpans char then some (-1, .plain) else none
  | .lisuTone => if inSpans lisuSpans char then some .absorbed else none
  | .orkhonI => if joined && char.toNat = 0x10C32 then some .absorbed else none

/-- What a character adds in front of a letter. A joiner and marks that never show do not part
letters, Arabic ones aside. -/
def Letter.precede? (letter : Letter) (joined : Bool) (char : Char) : Option Meeting :=
  if letter ≠ .alef ∧ char = joiner then some (0, .letter letter true)
  else if letter ≠ .alef ∧ isIgnorableMark char then some (0, .letter letter joined)
  else letter.meet? joined char

/-- What a character adds in front of a joiner with a picture behind it. -/
def joinPicture? (char : Char) : Option Meeting :=
  if char.toNat = 0x20E3 then some (0, .joinedKey)
  else if isFlagLetter char then some (1, .joinedFlags 1)
  else if isTone char then some (0, .tone)
  else if char.toNat = 0xE007F then some (0, .joinedTags 0 0)
  else if isPicture char then some (0, .picture)
  else none

/-- What a character adds in front of tags. A flag stands in front of a region of two letters or
three digits, with up to four letters behind it. -/
def joinTags? (letters digits : Nat) (char : Char) : Option Meeting :=
  if isTagLetter char && letters < 6 && digits = 0 then some (0, .joinedTags (letters + 1) 0)
  else if isTagDigit char && letters ≤ 4 && digits < 3 then
    some (0, .joinedTags letters (digits + 1))
  else if char.toNat = 0x1F3F4 && (digits = 3 || digits = 0 && 3 ≤ letters) then
    some (0, .picture)
  else none

/-- What a character adds in front of a trail, where it meets it. -/
def Trail.meet? (trail : Trail) (char : Char) : Option Meeting :=
  match trail with
  | .plain => none
  | .joinedKey => none
  | .letter kind isJoined => kind.precede? isJoined char
  | .vowelE =>
      if char.toNat = 0x16D63 || char.toNat = 0x16D69 then some .absorbed
      else if char.toNat = 0x16D67 then some (0, .vowelAi)
      else if char.toNat = 0x16D68 then some (1, .vowelE)
      else none
  | .vowelAi => if char.toNat = 0x16D63 then some .absorbed else none
  | .tone =>
      if char = joiner then some (0, .joined)
      else if takesTone char then some (0, .picture)
      else none
  | .flags letters =>
      if char = joiner && 2 ≤ letters then some (0, .joined)
      else if isFlagLetter char then some (1, .flags (letters + 1))
      else none
  | .picture => if char = joiner then some (0, .joined) else none
  | .joined => joinPicture? char
  | .joinedFlags letters =>
      if char = joiner && 2 ≤ letters then some (0, .joined)
      else if isFlagLetter char then
        some (if letters % 2 = 1 then -1 else 3, .joinedFlags (letters + 1))
      else none
  | .joinedTags letters digits => joinTags? letters digits char

end FrameLink.Text

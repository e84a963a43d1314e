import CallLedger.Text.Character
import CallLedger.Text.EmojiTable

/-!
# Emoji sequences

An emoji is one picture of two columns together with the characters that change it: a
skin tone, a selector, or further emoji that joiners attach.  Two regional letters are
one flag.  Text is read from its end, so a sequence is found when its last characters
have been read and the ones before them are met.
-/

namespace CallLedger.Text

def isSelectable (char : Char) : Bool :=
  isAmong selectableRanges char

/-- Whether a character is shown as an emoji unless a selector asks for its text form. -/
def isPicture (char : Char) : Bool :=
  isAmong pictureRanges char

/-- Whether the text form of a picture is narrower than its emoji form.  Enclosed
ideographs are wide in both. -/
def hasNarrowForm (char : Char) : Bool :=
  isSelectable char && isPicture char && !isAmong [(0x1F200, 0x1F2FF)] char

def isTone (char : Char) : Bool :=
  isAmong [(0x1F3FB, 0x1F3FF)] char

/-- Whether a character is a regional letter; two of them name a country. -/
def isRegional (char : Char) : Bool :=
  isAmong [(0x1F1E6, 0x1F1FF)] char

/-- Tag characters that end a sequence of tags: letters or digits, at the end of which
stand letters only. -/
inductive Tags where
  /-- So many letters. -/
  | letters (count : Nat)
  /-- So many digits, perhaps with letters after them. -/
  | digits (count : Nat)
  deriving DecidableEq, Repr

/-- The tags with one more tag before them, if a flag may have such tags: up to six
letters, or up to four letters with up to three digits before them. -/
def Tags.extend? (char : Char) : Tags → Option Tags
  | .letters count =>
      if isAmong [(0xE0061, 0xE007A)] char && decide (count < 6) then
        some (.letters (count + 1))
      else if isAmong [(0xE0030, 0xE0039)] char && decide (count ≤ 4) then
        some (.digits 1)
      else
        none
  | .digits count =>
      if isAmong [(0xE0030, 0xE0039)] char && decide (count < 3) then
        some (.digits (count + 1))
      else
        none

/-- Whether tags name a region, so that a black flag may stand before them. -/
def Tags.areComplete : Tags → Bool
  | .letters count => decide (3 ≤ count)
  | .digits count => decide (count = 3)

/-- What the end of an emoji sequence that has been read consists of. -/
inductive EmojiTail where
  /-- An emoji. -/
  | picture
  /-- A skin tone. -/
  | tone
  /-- A regional letter. -/
  | letter
  /-- Regional letters. -/
  | letters
  /-- A joiner and an emoji. -/
  | joined
  /-- A keycap mark before a joiner and an emoji. -/
  | joinedKeycap
  /-- A regional letter before a joiner and an emoji. -/
  | joinedLetter
  /-- An even number of regional letters before a joiner and an emoji. -/
  | joinedEven
  /-- A larger odd number of regional letters before a joiner and an emoji. -/
  | joinedOdd
  /-- Tags and their end mark before a joiner and an emoji. -/
  | joinedTags (tags : Tags)
  deriving DecidableEq, Repr

namespace EmojiTail

/-- The sequence that a character may end. -/
def endingWith? (char : Char) : Option EmojiTail :=
  if isRegional char then some .letter
  else if isTone char then some .tone
  else if isPicture char then some .picture
  else none

/-- Whether a selector for the emoji form may stand before the tail, in which case the
character selected is attached to it. -/
def awaitsSelected : EmojiTail → Bool
  | .joined | .joinedKeycap => true
  | _ => false

/-- Columns that a character adds in front of a tail, and what it makes of it, if it
belongs to the sequence.  Of the regional letters before a joiner, the two next to it
add nothing, and every two after them are a flag of their own. -/
def extend? (char : Char) : EmojiTail → Option (Int × EmojiTail)
  | .picture => if char = joiner then some (0, .joined) else none
  | .tone =>
      if char = joiner then some (0, .joined)
      else if isAmong tonedRanges char then some (0, .picture)
      else none
  | .letter => if isRegional char then some (1, .letters) else none
  | .letters =>
      if isRegional char then some (1, .letters)
      else if char = joiner then some (0, .joined)
      else none
  | .joined =>
      if char.toNat = 0x20E3 then some (0, .joinedKeycap)
      else if isRegional char then some (1, .joinedLetter)
      else if isTone char then some (0, .tone)
      else if char.toNat = 0xE007F then some (0, .joinedTags (.letters 0))
      else if isPicture char then some (0, .picture)
      else none
  | .joinedKeycap => none
  | .joinedLetter => if isRegional char then some (-1, .joinedEven) else none
  | .joinedEven =>
      if isRegional char then some (3, .joinedOdd)
      else if char = joiner then some (0, .joined)
      else none
  | .joinedOdd =>
      if isRegional char then some (-1, .joinedEven)
      else if char = joiner then some (0, .joined)
      else none
  | .joinedTags tags =>
      if char.toNat == 0x1F3F4 && tags.areComplete then
        some (0, .picture)
      else
        (tags.extend? char).map fun longer => (0, .joinedTags longer)

end EmojiTail

end CallLedger.Text

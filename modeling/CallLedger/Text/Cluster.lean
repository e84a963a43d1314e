import CallLedger.Text.ClusterTable
import CallLedger.Text.Emoji

/-!
# Clusters of characters

A cluster is what a reader takes for one character: a base with its marks, the letters of
one syllable, consonants linked into one conjunct, an emoji with the emoji joined to it,
or the two letters of a flag.  A text is cut between clusters only.
-/

namespace CallLedger.Text

/-- What a character does in a cluster. -/
inductive ClusterRole where
  /-- Stands alone. -/
  | control
  /-- Belongs to the character before it. -/
  | mark
  /-- Belongs to the character before it and may attach an emoji to an emoji. -/
  | joiner
  /-- Belongs to the character before it and has a width of its own. -/
  | spacingMark
  /-- Belongs with the character after it. -/
  | leader
  /-- Letters that a syllable starts with. -/
  | leadingLetter
  /-- Vowels of a syllable. -/
  | vowel
  /-- Letters that a syllable ends with. -/
  | trailingLetter
  /-- A syllable that ends with its vowel. -/
  | openSyllable
  /-- A syllable that ends with a letter after its vowel. -/
  | closedSyllable
  /-- One of the two letters of a flag. -/
  | regional
  /-- An emoji or a character kept for one. -/
  | picture
  /-- A consonant that may be part of a conjunct. -/
  | consonant
  /-- Anything else. -/
  | base
  deriving DecidableEq, Repr

def isPictograph (char : Char) : Bool :=
  isSelectable char || isPicture char || isAmong reservedPictureRanges char

/-- Whether a character has no width of its own and belongs to the one before it, or does
so with a width: half-width voice marks and skin tones.  Three fillers without a width are
letters. -/
def isMark (char : Char) : Bool :=
  isTone char || isAmong [(0x2D7F, 0x2D7F), (0xFF9E, 0xFF9F)] char ||
    (charWidth char == 0 &&
      !isAmong [(0x3164, 0x3164), (0xA8FA, 0xA8FA), (0xFFA0, 0xFFA0)] char)

namespace ClusterRole

/-- Role of a letter or syllable of the Hangul script, or of a vowel of a script that
is divided in the same way. -/
def ofSyllabic? (char : Char) : Option ClusterRole :=
  if isAmong [(0x1100, 0x115F), (0xA960, 0xA97C)] char then some .leadingLetter
  else if isAmong [(0x1160, 0x11A7), (0xD7B0, 0xD7C6), (0x16D63, 0x16D63),
      (0x16D67, 0x16D6A)] char then some .vowel
  else if isAmong [(0x11A8, 0x11FF), (0xD7CB, 0xD7FB)] char then some .trailingLetter
  else if isAmong [(0xAC00, 0xD7A3)] char then
    some (if (char.toNat - 0xAC00) % 28 = 0 then .openSyllable else .closedSyllable)
  else none

def ofChar (char : Char) : ClusterRole :=
  if char.toNat < 0x20 then .control
  else if char.toNat < 0x7F then .base
  else if char = Text.joiner then .joiner
  else if isAmong controlRanges char then .control
  else if isAmong leaderRanges char then .leader
  else if isRegional char then .regional
  else
    match ofSyllabic? char with
    | some role => role
    | none =>
        if isMark char then .mark
        else if isAmong spacingRanges char then .spacingMark
        else if isAmong conjunctRanges char then .consonant
        else if isPictograph char then .picture
        else .base

/-- Whether a syllable that goes on with one role may go on with another. -/
def continuesSyllable : ClusterRole → ClusterRole → Bool
  | .leadingLetter, .leadingLetter | .leadingLetter, .vowel
  | .leadingLetter, .openSyllable | .leadingLetter, .closedSyllable => true
  | .openSyllable, .vowel | .openSyllable, .trailingLetter
  | .vowel, .vowel | .vowel, .trailingLetter => true
  | .closedSyllable, .trailingLetter | .trailingLetter, .trailingLetter => true
  | _, _ => false

end ClusterRole

/-- Whether characters, from the last to the first, end with an emoji and its marks. -/
def endsWithPicture (reversed : List Char) : Bool :=
  (reversed.dropWhile (ClusterRole.ofChar · == .mark)).head?.any
    (ClusterRole.ofChar · == .picture)

def isLinker (char : Char) : Bool :=
  isAmong linkerRanges char

/-- Whether a mark may stand between a linker and the consonants around it.  The one that
keeps its neighbours apart may not. -/
def isConjunctMark (char : Char) : Bool :=
  char != '\u200c' && (ClusterRole.ofChar char == .mark || char == joiner)

/-- Whether characters, from the last to the first, end with a consonant that is linked to
a consonant after it. -/
def endsWithLinkedConsonant (reversed : List Char) : Bool :=
  (reversed.takeWhile isConjunctMark).any isLinker &&
    (reversed.dropWhile isConjunctMark).head?.any (ClusterRole.ofChar · == .consonant)

/-- Whether a character belongs to the cluster before it, which is given from its last
character to its first. -/
def extendsCluster (char : Char) : List Char → Bool
  | [] => false
  | last :: earlier =>
      match ClusterRole.ofChar last, ClusterRole.ofChar char with
      | .control, _ => last == '\r' && char == '\n'
      | _, .control => false
      | _, .mark | _, .joiner | _, .spacingMark | .leader, _ => true
      | _, .consonant => endsWithLinkedConsonant (last :: earlier)
      | .joiner, .picture => endsWithPicture earlier
      | .regional, .regional =>
          (earlier.takeWhile isRegional).length % 2 == 0
      | before, after => before.continuesSyllable after

/-- How many of some characters belong to the cluster before them. -/
def clusterRest (cluster : List Char) : List Char → Nat
  | [] => 0
  | char :: rest =>
      if extendsCluster char cluster then clusterRest (char :: cluster) rest + 1 else 0

/-- The first cluster of some characters, and the characters after it. -/
def firstCluster (char : Char) (rest : List Char) : List Char × List Char :=
  let count := clusterRest [char] rest
  (char :: rest.take count, rest.drop count)

/-- Nothing is lost between a cluster and what comes after it. -/
theorem firstCluster_append (char : Char) (rest : List Char) :
    (firstCluster char rest).1 ++ (firstCluster char rest).2 = char :: rest := by
  simp [firstCluster]

/-- A cluster has at least one character. -/
theorem firstCluster_length_le (char : Char) (rest : List Char) :
    (firstCluster char rest).2.length ≤ rest.length := by
  simp [firstCluster]

end CallLedger.Text

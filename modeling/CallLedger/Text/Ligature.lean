import CallLedger.Text.Character

/-!
# Ligatures

In some scripts, letters that follow each other are written as one sign and take fewer
columns than they do apart.  Text is read from its end, so a ligature is found when its
last letter has been read and the letters before it are met.
-/

namespace CallLedger.Text

/-- What the end of a ligature that has been read consists of. -/
inductive Ligature where
  /-- An Arabic alef, which a lam before it takes in. -/
  | alef
  /-- A Hebrew lamed, which is joined to an alef. -/
  | lamed
  /-- A Buginese ya. -/
  | ya
  /-- A Buginese vowel sign joined to a ya. -/
  | vowelAndYa
  /-- A Tifinagh consonant. -/
  | consonant
  /-- A Tifinagh consonant with the consonant joiner before it. -/
  | linkedConsonant
  /-- A Lisu letter that ends a compound tone. -/
  | tone
  /-- An Old Turkic letter, which is joined to a letter of the same sound. -/
  | orkhon
  /-- A Khmer letter, which may be put under the one before it. -/
  | subscript
  /-- The second of two Kirat Rai vowel signs. -/
  | vowelE
  /-- The third of three Kirat Rai vowel signs, or a sign equivalent to it. -/
  | vowelAi
  deriving DecidableEq, Repr

/-- Arabic letters that are forms of alef. -/
def alefRanges : List (Nat × Nat) :=
  [(0x622, 0x623), (0x625, 0x625), (0x627, 0x627), (0x671, 0x673), (0x675, 0x675),
    (0x773, 0x774), (0x870, 0x882)]

/-- Arabic letters that are forms of lam. -/
def lamRanges : List (Nat × Nat) :=
  [(0x644, 0x644), (0x6B5, 0x6B8), (0x76A, 0x76A), (0x8A6, 0x8A6), (0x8C7, 0x8C7)]

/-- Tifinagh consonants. -/
def consonantRanges : List (Nat × Nat) :=
  [(0x2D31, 0x2D65), (0x2D6F, 0x2D6F)]

/-- Khmer letters with a subscript form. -/
def subscriptRanges : List (Nat × Nat) :=
  [(0x1780, 0x1782), (0x1784, 0x1787), (0x1789, 0x178C), (0x178E, 0x1793), (0x1795, 0x1798),
    (0x179B, 0x179D), (0x17A0, 0x17A0), (0x17A2, 0x17A2), (0x17A7, 0x17A7), (0x17AB, 0x17AC),
    (0x17AF, 0x17AF)]

/-- Combining marks that are ignored where they have no effect. -/
def ignorableMarkRanges : List (Nat × Nat) :=
  [(0x34F, 0x34F), (0x17B4, 0x17B5), (0x180B, 0x180D), (0x180F, 0x180F), (0xFE00, 0xFE0F),
    (0xE0100, 0xE01EF)]

namespace Ligature

/-- The ligature that a character may end. -/
def endingWith? (char : Char) : Option Ligature :=
  if char.toNat = 0x5DC then some .lamed
  else if isAmong alefRanges char then some .alef
  else if isAmong subscriptRanges char then some .subscript
  else if char.toNat = 0x1A10 then some .ya
  else if isAmong consonantRanges char then some .consonant
  else if isAmong [(0xA4FC, 0xA4FD)] char then some .tone
  else if char.toNat = 0x10C03 then some .orkhon
  else if char.toNat = 0x16D67 then some .vowelE
  else if char.toNat = 0x16D68 then some .vowelAi
  else none

def allowsSelectors : Ligature → Bool
  | .vowelE | .vowelAi => false
  | _ => true

def allowsMarks : Ligature → Bool
  | .alef | .vowelE | .vowelAi => false
  | _ => true

/-- Columns that a character adds in front of a ligature's end, and what it makes of it,
if it belongs to the ligature.  Some ligatures need a joiner between their letters.  A
letter that takes a column back has been counted before. -/
def extend? (joined : Bool) (char : Char) : Ligature → Option (Int × Option Ligature)
  | .alef =>
      if isAmong lamRanges char then some (0, none)
      else if isTransparent char then some (0, some .alef)
      else none
  | .lamed => if joined && char.toNat == 0x5D0 then some (0, none) else none
  | .ya => if joined && char.toNat == 0x1A17 then some (0, some .vowelAndYa) else none
  | .vowelAndYa => if char.toNat = 0x1A15 then some (0, none) else none
  | .consonant =>
      if char.toNat = 0x2D7F then some (1, some .linkedConsonant)
      else if joined && isAmong consonantRanges char then some (0, none)
      else none
  | .linkedConsonant => if isAmong consonantRanges char then some (-1, none) else none
  | .tone => if isAmong [(0xA4F8, 0xA4FB)] char then some (0, none) else none
  | .orkhon => if joined && char.toNat == 0x10C32 then some (0, none) else none
  | .subscript => if char.toNat = 0x17D2 then some (-1, none) else none
  | .vowelE =>
      if char.toNat = 0x16D63 then some (0, none)
      else if char.toNat = 0x16D67 then some (0, some .vowelAi)
      else if char.toNat = 0x16D68 then some (1, some .vowelE)
      else if char.toNat = 0x16D69 then some (0, none)
      else none
  | .vowelAi => if char.toNat = 0x16D63 then some (0, none) else none

end Ligature

end CallLedger.Text

import CallLedger.Text.EscapeTable
import CallLedger.Text.WidthTable

/-!
# Characters

Classes of characters are given as runs of code points, each by its first and last one.
What a text looks like rests on three of them: which characters are blank, how many
columns a character takes on a terminal, and which characters can be shown inside of
quotes as they are.
-/

namespace CallLedger.Text

/-- Whether a character lies in one of the runs. -/
def isAmong (ranges : List (Nat × Nat)) (char : Char) : Bool :=
  ranges.any fun (first, last) =>
    decide (first ≤ char.toNat) && decide (char.toNat ≤ last)

/-- The characters with the Unicode property White_Space. -/
def blankRanges : List (Nat × Nat) :=
  [(0x09, 0x0D), (0x20, 0x20), (0x85, 0x85), (0xA0, 0xA0), (0x1680, 0x1680),
    (0x2000, 0x200A), (0x2028, 0x2029), (0x202F, 0x202F), (0x205F, 0x205F),
    (0x3000, 0x3000)]

def isBlank (char : Char) : Bool :=
  isAmong blankRanges char

/-- Text without the blank characters at its end. -/
def trimEnd (text : String) : String :=
  String.ofList (text.toList.reverse.dropWhile isBlank).reverse

/-- Every character that ASCII programs treat as white space is blank. -/
theorem isBlank_of_isWhitespace {char : Char} (white : char.isWhitespace = true) :
    isBlank char = true := by
  simp only [Char.isWhitespace, Bool.or_eq_true, decide_eq_true_eq] at white
  rcases white with ((rfl | rfl) | rfl) | rfl <;> decide

/-- Columns of a character if nothing around it changes that.  A control character takes
one. -/
def charWidth (char : Char) : Nat :=
  if char.toNat ≤ 0xA0 then 1
  else if isAmong zeroWidthRanges char then 0
  else if isAmong doubleWidthRanges char then 2
  else if char.toNat = 0x17D8 then 3
  else 1

theorem charWidth_le (char : Char) : charWidth char ≤ 3 := by
  unfold charWidth
  repeat' split
  all_goals decide

/-- Whether cursive letters join across a character. -/
def isTransparent (char : Char) : Bool :=
  charWidth char == 0 && !isAmong interruptingRanges char

/-- The character that joins its neighbours. -/
def joiner : Char := '\u200d'

/-- Whether a character is shown on its own. -/
def isPrintable (char : Char) : Bool :=
  decide (0x20 ≤ char.toNat) && !isAmong hiddenRanges char

/-- Escape of a character by its code point. -/
def escapeCode (char : Char) : List Char :=
  ['\\', 'u', '\x7b'] ++ Nat.toDigits 16 char.toNat ++ ['\x7d']

/-- A character as it is written inside of quotes. -/
def escape (char : Char) : List Char :=
  match char with
  | '\x00' => ['\\', '0']
  | '\t' => ['\\', 't']
  | '\n' => ['\\', 'n']
  | '\r' => ['\\', 'r']
  | '"' => ['\\', '"']
  | '\'' => ['\\', '\'']
  | '\\' => ['\\', '\\']
  | char => if isPrintable char then [char] else escapeCode char

end CallLedger.Text

import CallLedger.Text.Emoji
import CallLedger.Text.Ligature

/-!
# Width of text

The number of columns that a text takes on a terminal.  Most characters take a number
of columns of their own.  The exceptions are ligatures, emoji sequences and characters
with a variation selector after them.  Text is measured from its end, because what
changes a character follows it.
-/

namespace CallLedger.Text

/-- The character that selects the text form of the one before it. -/
def textSelector : Char := '\ufe0e'

/-- The character that selects the emoji form of the one before it. -/
def emojiSelector : Char := '\ufe0f'

/-- The character that makes a quotation mark before it wide. -/
def wideSelector : Char := '\ufe01'

def isQuotation (char : Char) : Bool :=
  isAmong [(0x2018, 0x2019), (0x201C, 0x201D)] char

/-- What the characters after a place start with, as far as it matters to the character
before it. -/
inductive Context where
  /-- Nothing that matters. -/
  | plain
  /-- A line feed. -/
  | lineFeed
  /-- The end of an emoji sequence. -/
  | emoji (tail : EmojiTail)
  /-- The end of a ligature, perhaps with a joiner before it. -/
  | ligature (ending : Ligature) (joined : Bool)
  deriving DecidableEq, Repr

namespace Context

/-- What a character means to the one before it if it belongs to nothing after it. -/
def startingWith (char : Char) : Context :=
  match EmojiTail.endingWith? char, Ligature.endingWith? char with
  | some tail, _ => .emoji tail
  | none, some ending => .ligature ending false
  | none, none => .plain

/-- Whether a selector leaves a context as it is. -/
def allowsSelectors : Context → Bool
  | .ligature ending _ => ending.allowsSelectors
  | _ => false

/-- Whether a character that a selector turns into an emoji is attached to the emoji in a
context. -/
def awaitsSelected : Context → Bool
  | .emoji tail => tail.awaitsSelected
  | _ => false

/-- Columns that a character adds before a context, and the context that it makes of it,
if it belongs to a sequence or a ligature there. -/
def extend? (char : Char) : Context → Option (Int × Context)
  | .plain | .lineFeed => none
  | .emoji tail =>
      (tail.extend? char).map fun (columns, longer) => (columns, .emoji longer)
  | .ligature ending joined =>
      if ending.allowsMarks && char == joiner then
        some (0, .ligature ending true)
      else if ending.allowsMarks && isAmong ignorableMarkRanges char then
        some (0, .ligature ending joined)
      else
        (ending.extend? joined char).map fun (columns, longer) =>
          (columns, longer.elim .plain (.ligature · false))

end Context

/-- What the characters after a place mean to the character before it.  Selectors that
follow one another in a context that allows for them all keep their effect. -/
structure Following where
  context : Context
  /-- Whether a selector asks for the text form of the character before. -/
  text : Bool
  /-- Whether a selector asks for the emoji form of the character before. -/
  emoji : Bool
  /-- Whether a selector makes a quotation mark wide. -/
  wide : Bool
  deriving DecidableEq, Repr

namespace Following

/-- A context without selectors. -/
def ofContext (context : Context) : Following := ⟨context, false, false, false⟩

/-- Nothing that matters. -/
def plain : Following := ofContext .plain

/-- A change of the selectors that are in effect, which ends a context that does not
allow for them. -/
def select (following : Following) (change : Following → Following) : Following :=
  change (if following.context.allowsSelectors then following else plain)

def selectText (following : Following) : Following :=
  following.select ({ · with text := true })

def selectEmoji (following : Following) : Following :=
  if following.context.awaitsSelected then
    { following with emoji := true }
  else
    following.select ({ · with emoji := true })

def selectWide (following : Following) : Following :=
  following.select ({ · with wide := true })

/-- The selector for the emoji form has no effect on the character before. -/
def withoutEmojiForm (following : Following) : Following :=
  following.select ({ · with emoji := false })

end Following

/-- Columns that an ASCII or control character adds, and what it means to the character
before it.  A carriage return and a line feed are one. -/
def measureControl (char : Char) (following : Following) : Int × Following :=
  if char = '\n' then (1, .ofContext .lineFeed)
  else if char = '\r' ∧ following.context = .lineFeed then (0, .plain)
  else (1, .plain)

/-- Columns that a character adds in front of a context, whatever selectors are in
effect, and what it means to the character before it. -/
def measureIn (context : Context) (char : Char) : Int × Following :=
  match context.extend? char with
  | some (columns, longer) => (columns, .ofContext longer)
  | none => (charWidth char, .ofContext (.startingWith char))

/-- Columns that a character adds which no selector turns into an emoji, and what it means
to the character before it. -/
def measureUnpictured (char : Char) (following : Following) : Int × Following :=
  if char.toNat ≤ 0xA0 then measureControl char following
  else if char = emojiSelector then (0, following.selectEmoji)
  else if char = textSelector then (0, following.selectText)
  else if char = wideSelector then (0, following.selectWide)
  else if following.text && hasNarrowForm char then (1, .plain)
  else if following.wide && isQuotation char then (2, .plain)
  else measureIn following.context char

/-- Columns that a character adds to those after it, and what it means to the character
before it. -/
def measure (char : Char) (following : Following) : Int × Following :=
  if following.emoji then
    if isSelectable char then
      (if following.context.awaitsSelected then 0 else 2, .ofContext (.emoji .picture))
    else
      measureUnpictured char following.withoutEmojiForm
  else
    measureUnpictured char following

/-- Columns of characters and what they mean to a character before them. -/
def measureAll (chars : List Char) : Int × Following :=
  chars.foldr (fun char (columns, following) =>
    let (added, meaning) := measure char following
    (added + columns, meaning)) (0, .plain)

def columnsOf (chars : List Char) : Nat :=
  (measureAll chars).1.toNat

def width (text : String) : Nat :=
  columnsOf text.toList

@[simp] theorem measureAll_nil : measureAll [] = (0, .plain) := rfl

theorem measureAll_cons (char : Char) (chars : List Char) :
    measureAll (char :: chars) =
      ((measure char (measureAll chars).2).1 + (measureAll chars).1,
        (measure char (measureAll chars).2).2) := rfl

/-- A blank takes one column, whatever follows, and means nothing to the character before
it. -/
@[simp] theorem measure_blank (following : Following) :
    measure ' ' following = (1, .plain) := by
  have notSelectable : isSelectable ' ' = false := by decide
  simp only [measure, notSelectable]
  split <;> simp [measureUnpictured, measureControl]

/-- The columns of words with a blank between them add up. -/
theorem measureAll_append_blank (before after : List Char) :
    measureAll (before ++ ' ' :: after) =
      ((measureAll before).1 + (1 + (measureAll after).1), (measureAll before).2) := by
  induction before with
  | nil => simp [measureAll_cons]
  | cons char before ih => simp [measureAll_cons, ih, Int.add_assoc]

/-- A printable character of ASCII takes one column and means nothing to the character
before it, unless a selector turns it into an emoji. -/
theorem measure_of_ascii {char : Char} {following : Following}
    (lower : 0x20 ≤ char.toNat) (upper : char.toNat ≤ 0x7E)
    (unselected : following.emoji = false) :
    measure char following = (1, .plain) := by
  have notFeed : char ≠ '\n' := by rintro rfl; simp at lower
  have notReturn : char ≠ '\r' := by rintro rfl; simp at lower
  have small : char.toNat ≤ 0xA0 := by omega
  simp [measure, measureUnpictured, measureControl, unselected, notFeed, notReturn, small]

end CallLedger.Text

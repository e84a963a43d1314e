/-!
# Reading v0 symbols

A cursor stands somewhere in a symbol of the v0 mangling scheme.  The operations here
read the scheme's words: numbers in base 62, identifiers, hexadecimal data and
references to earlier positions.
-/

namespace CallLedger.Symbol.V0

/-- Why a symbol cannot be read on. -/
inductive Flaw where
  | badSyntax
  | tooDeep
  deriving DecidableEq, Repr

/-- Text shown where reading broke off. -/
def Flaw.message : Flaw → String
  | .badSyntax => "\x7binvalid syntax\x7d"
  | .tooDeep => "\x7brecursion limit reached\x7d"

/-- A place in a symbol. -/
structure Cursor where
  /-- The whole symbol, without its first letters. -/
  symbol : List Char
  /-- How many characters lie before the place. -/
  position : Nat
  /-- The characters from the place on. -/
  rest : List Char
  /-- How many constructs the place is inside of. -/
  depth : Nat

/-- An identifier; one with characters outside of ASCII has digits. -/
structure Identifier where
  ascii : List Char
  digits : List Char
  deriving DecidableEq

def Identifier.isEmpty (identifier : Identifier) : Bool :=
  identifier.ascii.isEmpty && identifier.digits.isEmpty

/-- How many constructs may be nested. -/
def maxDepth : Nat := 500

/-- The largest number that a symbol may hold. -/
def maxNumber : Nat := Nat.pow 2 64 - 1

/-- An operation that reads on from a cursor. -/
abbrev Reader := StateT Cursor (Except Flaw)

namespace Cursor

def start (symbol : List Char) : Cursor := ⟨symbol, 0, symbol, 0⟩

def advance (cursor : Cursor) (count : Nat) : Cursor :=
  { cursor with
    position := cursor.position + count
    rest := cursor.rest.drop count }

end Cursor

namespace Reader

def bad {α : Type} : Reader α :=
  throw .badSyntax

/-- Go into a construct. -/
def enter : Reader Unit := do
  let cursor ← get
  if cursor.depth < maxDepth then
    set { cursor with depth := cursor.depth + 1 }
  else
    throw .tooDeep

def next : Reader Char := do
  let cursor ← get
  match cursor.rest with
  | [] => bad
  | char :: _ => do
      set (cursor.advance 1)
      return char

/-- Read one particular character if it comes next. -/
def skip (char : Char) : Reader Bool := do
  let cursor ← get
  if cursor.rest.head? = some char then
    set (cursor.advance 1)
    return true
  else
    return false

/-- Read the longest run of characters of a class. -/
def takeAll (accepts : Char → Bool) : Reader (List Char) := do
  let cursor ← get
  let found := cursor.rest.takeWhile accepts
  set (cursor.advance found.length)
  return found

/-- Value of a digit in base 62: decimal digits, then small and capital letters. -/
def digit62? (char : Char) : Option Nat :=
  if char.isDigit then some (char.toNat - '0'.toNat)
  else if 'a' ≤ char ∧ char ≤ 'z' then some (10 + (char.toNat - 'a'.toNat))
  else if 'A' ≤ char ∧ char ≤ 'Z' then some (36 + (char.toNat - 'A'.toNat))
  else none

/-- A number if it is not too large. -/
def bounded (number : Nat) : Reader Nat :=
  if number ≤ maxNumber then return number else bad

/-- Read a number in base 62 with its closing underscore.  The underscore alone is
zero, and digits stand for one more than their value. -/
def number : Reader Nat := do
  let digits ← takeAll (·.isAlphanum)
  if !(← skip '_') then
    bad
  else if digits.isEmpty then
    return 0
  else
    let value ← digits.foldlM (fun value digit =>
      match digit62? digit with
      | some digit => bounded (value * 62 + digit)
      | none => bad) 0
    bounded (value + 1)

/-- Read a number that a letter announces, zero if the letter does not come next. -/
def optionalNumber (mark : Char) : Reader Nat := do
  if ← skip mark then
    bounded ((← number) + 1)
  else
    return 0

/-- Read the number that tells apart things of one name. -/
def disambiguator : Reader Nat :=
  optionalNumber 's'

/-- Read the kind of a nested name; capital letters stand for special kinds. -/
def namespaceKind : Reader (Option Char) := do
  let kind ← next
  if 'A' ≤ kind ∧ kind ≤ 'Z' then return some kind
  else if 'a' ≤ kind ∧ kind ≤ 'z' then return none
  else bad

def hexadecimal : Reader (List Char) := do
  let digits ← takeAll fun char => char.isDigit || (decide ('a' ≤ char) && decide (char ≤ 'f'))
  if ← skip '_' then return digits else bad

/-- The parts of an identifier stored with digits, which follow the last
underscore. -/
def splitDigits (text : List Char) : Identifier :=
  let digits := (text.reverse.takeWhile (· != '_')).reverse
  ⟨text.take (text.length - digits.length - 1), digits⟩

/-- Read an identifier: its length, an optional underscore and its characters. -/
def identifier : Reader Identifier := do
  let encoded ← skip 'u'
  let first ← next
  if !first.isDigit then
    bad
  else
    let others ← if first = '0' then pure [] else takeAll Char.isDigit
    let length := (first :: others).foldl
      (fun value digit => value * 10 + (digit.toNat - '0'.toNat)) 0
    let _ ← skip '_'
    let cursor ← get
    let text := cursor.rest.take length
    if text.length < length then
      bad
    else
      set (cursor.advance length)
      if encoded then
        let parts := splitDigits text
        if parts.digits.isEmpty then bad else return parts
      else
        return ⟨text, []⟩

/-- Read a reference to an earlier place of the symbol.  The reference starts with the
letter that was read last; the place has to lie before that letter. -/
def reference : Reader Cursor := do
  let start := (← get).position - 1
  let place ← number
  if start ≤ place then
    bad
  else
    let cursor ← get
    if cursor.depth < maxDepth then
      return ⟨cursor.symbol, place, cursor.symbol.drop place, cursor.depth + 1⟩
    else
      throw .tooDeep

end Reader

end CallLedger.Symbol.V0

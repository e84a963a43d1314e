import CallLedger.Count

/-!
# Whole numbers in decimal

A count is read from its decimal digits, which a single plus sign may precede.  Digits
are taken from left to right and the first fault found is reported, so a number that is
already too large wins over a later character that is no digit.

Large counts are shown with a comma before every group of three digits, counted from
the right.
-/

namespace CallLedger.Decimal

/-- Why a text is not a count. -/
inductive CountFault where
  | empty
  | invalidDigit
  | tooLarge
  deriving DecidableEq, Repr

def CountFault.message : CountFault → String
  | .empty => "cannot parse integer from empty string"
  | .invalidDigit => "invalid digit found in string"
  | .tooLarge => "number too large to fit in target type"

def digit? (char : Char) : Option Nat :=
  if char.isDigit then some (char.toNat - '0'.toNat) else none

/-- Continue reading digits after a number that has been read so far. -/
def readDigits (value : Nat) : List Char → Except CountFault Nat
  | [] => .ok value
  | char :: rest =>
      match digit? char with
      | none => .error .invalidDigit
      | some digit =>
          if value * 10 + digit ≤ Count.limit then
            readDigits (value * 10 + digit) rest
          else
            .error .tooLarge

def readCount (text : List Char) : Except CountFault Count :=
  match text with
  | [] => .error .empty
  -- A sign on its own is no digit either, so it is left to `readDigits`.
  | '+' :: digit :: rest => (readDigits 0 (digit :: rest)).map .ofNat
  | text => (readDigits 0 text).map .ofNat

/-- Put a comma before every third digit of a number whose digits come last digit
first. -/
def groupReversed : List Char → List Char
  | first :: second :: third :: next :: rest =>
      first :: second :: third :: ',' :: groupReversed (next :: rest)
  | digits => digits

/-- Decimal digits of a count in thousands groups. -/
def grouped (count : Count) : String :=
  String.ofList (groupReversed (Nat.toDigits 10 count.value).reverse).reverse

end CallLedger.Decimal

/-!
# Punycode

Identifiers with characters outside of ASCII are stored as their ASCII characters and
a text of digits in base 36, which holds the other characters with their positions.
Digits are lower-case letters, then decimal digits.
-/

namespace CallLedger.Symbol.Punycode

def digit? (char : Char) : Option Nat :=
  if 'a' ≤ char ∧ char ≤ 'z' then some (char.toNat - 'a'.toNat)
  else if char.isDigit then some (26 + (char.toNat - '0'.toNat))
  else none

/-- The least digit value that is followed by another digit at a position. -/
def threshold (position bias : Nat) : Nat :=
  min (max (position - bias) 1) 26

/-- Read one number: a digit below its threshold is the last one. -/
def readNumber? (bias : Nat) : Nat → Nat → Nat → List Char → Option (Nat × List Char)
  | _, _, _, [] => none
  | position, weight, value, char :: rest =>
      match digit? char with
      | none => none
      | some digit =>
          let sum := value + digit * weight
          if digit < threshold position bias then
            some (sum, rest)
          else
            readNumber? bias (position + 36) (weight * (36 - threshold position bias)) sum rest

theorem readNumber?_length {bias position weight value number : Nat}
    {text rest : List Char}
    (found : readNumber? bias position weight value text = some (number, rest)) :
    rest.length < text.length := by
  induction text generalizing position weight value with
  | nil => simp [readNumber?] at found
  | cons char tail ih =>
      simp only [readNumber?] at found
      split at found
      · contradiction
      · split at found
        · cases found
          simp
        · exact Nat.lt_succ_of_lt (ih found)

/-- Scale a number down until it is small, counting the steps in digits. -/
def scaleDown (number digits : Nat) : Nat × Nat :=
  if 455 < number then scaleDown (number / 35) (digits + 36) else (number, digits)
termination_by number
decreasing_by exact Nat.div_lt_self (by omega) (by omega)

/-- The bias for the number after this one. -/
def adapt (number length damp : Nat) : Nat :=
  let damped := number / damp
  let (small, digits) := scaleDown (damped + damped / length) 0
  digits + 36 * small / (small + 38)

/-- Insert the characters that the digits hold. -/
def insertAll (bias damp code position : Nat) (text : List Char) (digits : List Char) :
    Option (List Char) :=
  match step : readNumber? bias 36 1 0 digits with
  | none => none
  | some (number, rest) =>
      -- The number counts places to insert at; past the end of the text it goes on with the
      -- next code point.
      let length := text.length + 1
      let place := position + number
      let code := code + place / length
      if code.isValidChar then
        let text := text.insertIdx (place % length) (Char.ofNat code)
        if rest.isEmpty then
          some text
        else
          insertAll (adapt number length damp) 2 code (place % length + 1) text rest
      else
        none
termination_by digits.length
decreasing_by exact readNumber?_length step

/-- The identifier with these ASCII characters and digits. -/
def decode? (ascii digits : List Char) : Option (List Char) :=
  insertAll 72 700 128 0 ascii digits

end CallLedger.Symbol.Punycode

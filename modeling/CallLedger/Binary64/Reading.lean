import CallLedger.Binary64.Basic

/-!
# Reading floating-point numbers

Decimal text is read as an exact rational and rounded once.  A number is digits with
at most one point among them and an optional power of ten; `inf`, `infinity` and
`nan` are recognised in any mixture of cases, and a sign may stand in front.
-/

namespace CallLedger.Binary64

/-- The number with the value `digits * 10 ^ exponent`.  Powers of ten far outside
the finite range are not computed. -/
def ofDecimal (negative : Bool) (digits : Nat) (exponent : Int) : Binary64 :=
  let position := exponent + (Nat.toDigits 10 digits).length
  if digits = 0 || position < -330 then
    finite negative 0
  else if 310 < position then
    infinity negative
  else
    match exponent with
    | .ofNat power => ofMagnitude negative (round (digits * Nat.pow 10 power * one) 1)
    | .negSucc power => ofMagnitude negative (round (digits * one) (Nat.pow 10 (power + 1)))

/-- Value of a run of decimal digits. -/
def digitsValue (digits : List Char) : Nat :=
  digits.foldl (fun value digit => value * 10 + (digit.toNat - '0'.toNat)) 0

def readSign : List Char → Bool × List Char
  | '-' :: rest => (true, rest)
  | '+' :: rest => (false, rest)
  | rest => (false, rest)

/-- The power of ten at the end of a number. -/
def readExponent? : List Char → Option Int
  | [] => some 0
  | mark :: rest =>
      let (negative, digits) := readSign rest
      if (mark == 'e' || mark == 'E') && !digits.isEmpty && digits.all Char.isDigit then
        some (if negative then -(digitsValue digits) else digitsValue digits)
      else
        none

/-- A number without its sign. -/
def readMagnitude? (negative : Bool) (text : List Char) : Option Binary64 :=
  let whole := text.takeWhile Char.isDigit
  let afterWhole := text.dropWhile Char.isDigit
  let (fraction, afterFraction) :=
    match afterWhole with
    | '.' :: rest => (rest.takeWhile Char.isDigit, rest.dropWhile Char.isDigit)
    | rest => ([], rest)
  if whole.isEmpty && fraction.isEmpty then
    none
  else
    (readExponent? afterFraction).map fun exponent =>
      ofDecimal negative (digitsValue (whole ++ fraction)) (exponent - fraction.length)

def parse? (text : String) : Option Binary64 :=
  let (negative, rest) := readSign text.toList
  let lower := rest.map Char.toLower
  if lower = "inf".toList || lower = "infinity".toList then
    some (infinity negative)
  else if lower = "nan".toList then
    some (nan negative)
  else
    readMagnitude? negative rest

end CallLedger.Binary64

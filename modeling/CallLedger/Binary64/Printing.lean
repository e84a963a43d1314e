import CallLedger.Binary64.Basic

/-!
# Printing floating-point numbers

Two texts of a number: a fixed count of decimal places, rounded from the exact
binary value, and the shortest decimal that reads back as the same number.  How the
shortest digits are laid out differs between messages, log lines and documents and
is a record of type `DecimalStyle`.
-/

namespace CallLedger

/-- The value `digits * 10 ^ exponent`. -/
structure ScaledDecimal where
  digits : Nat
  exponent : Int
  deriving DecidableEq, Repr

structure DecimalStyle where
  /-- The number is written positionally if its decimal point stands this many
  places behind its first digit, or between these two bounds. -/
  positional : Option (Int × Int)
  /-- Whether whole numbers are written with `.0`. -/
  keepsPoint : Bool
  /-- Which of two shortest decimals is written if both are equally near. -/
  tie : Tie

/-- Numbers in messages: always positional, whole numbers without a point. -/
def DecimalStyle.message : DecimalStyle := ⟨none, false, .awayFromZero⟩

/-- Numbers in log lines: powers of ten below `10 ^ -4` and from `10 ^ 16` on are
written with an exponent. -/
def DecimalStyle.log : DecimalStyle := ⟨some (-3, 16), true, .awayFromZero⟩

/-- Numbers in documents: powers of ten below `10 ^ -5` and from `10 ^ 16` on are
written with an exponent. -/
def DecimalStyle.document : DecimalStyle := ⟨some (-4, 16), true, .toEven⟩

namespace Binary64

def digitCount (number : Nat) : Nat :=
  (Nat.toDigits 10 number).length

/-- Places from the first digit of a positive magnitude to its decimal point: the
value lies in `[10 ^ (place - 1), 10 ^ place)`. -/
def pointPlace (quanta : Nat) : Int :=
  if one ≤ quanta then
    digitCount (quanta / one)
  else
    1 - digitCount ((one - 1) / quanta)

/-- The magnitude divided by a power of ten, as a fraction. -/
def scaled (quanta : Nat) : Int → Nat × Nat
  | .ofNat power => (quanta, one * Nat.pow 10 power)
  | .negSucc power => (quanta * Nat.pow 10 (power + 1), one)

/-- Whether a decimal reads back as the magnitude: it lies between the midpoints to
the two neighbours, or on one of them if the magnitude's last binary digit is
even.  Below a power of two the neighbours are twice as close. -/
def readsBack (quanta : Nat) (decimal : ScaledDecimal) : Bool :=
  let unit := spacing quanta
  let even := quanta / unit % 2 = 0
  let closer := quanta / unit = Nat.pow 2 52 ∧ 1 < unit
  let low := 4 * quanta - if closer then unit else 2 * unit
  let high := 4 * quanta + 2 * unit
  let (value, one) :=
    match decimal.exponent with
    | .ofNat power => (4 * decimal.digits * Nat.pow 10 power * one, 1)
    | .negSucc power => (4 * decimal.digits * one, Nat.pow 10 (power + 1))
  if even then
    decide (low * one ≤ value) && decide (value ≤ high * one)
  else
    decide (low * one < value) && decide (value < high * one)

/-- The decimal of this exponent nearest to the magnitude among those that read
back as it, if there is one. -/
def candidate? (tie : Tie) (quanta : Nat) (exponent : Int) : Option ScaledDecimal :=
  let (numerator, denominator) := scaled quanta exponent
  let below := numerator / denominator
  let nearest := tie.roundQuotient numerator denominator
  -- At a power of two there is less room below, so the other one may read back where the
  -- nearest does not.
  let other := if nearest = below then below + 1 else below
  [nearest, other].map (ScaledDecimal.mk · exponent) |>.find? (readsBack quanta)

/-- Move zeros at the end of the digits into the exponent. -/
def dropZeros : Nat → ScaledDecimal → ScaledDecimal
  | 0, decimal => decimal
  | fuel + 1, decimal =>
      if decimal.digits % 10 = 0 then
        dropZeros fuel ⟨decimal.digits / 10, decimal.exponent + 1⟩
      else
        decimal

/-- The shortest decimal that reads back as a positive magnitude, and among those
of its length the nearest.  Seventeen digits always suffice. -/
def shortest (tie : Tie) (quanta : Nat) : ScaledDecimal :=
  let place := pointPlace quanta
  let lengths := (List.range 17).map fun index => (index + 1 : Nat)
  let found := lengths.findSome? fun length : Nat => candidate? tie quanta (place - length)
  dropZeros 17 (found.getD ⟨0, 0⟩)

def layOut (style : DecimalStyle) (decimal : ScaledDecimal) : List Char :=
  let digits := Nat.toDigits 10 decimal.digits
  let place := decimal.exponent + digits.length
  let isPositional :=
    match style.positional with
    | none => true
    | some (low, high) => decide (low ≤ place) && decide (place ≤ high)
  if !isPositional then
    let fraction := digits.tail
    digits.take 1 ++ (if fraction.isEmpty then [] else '.' :: fraction) ++
      'e' :: (toString (place - 1)).toList
  else if place ≤ 0 then
    '0' :: '.' :: List.replicate place.natAbs '0' ++ digits
  else if digits.length ≤ place.natAbs then
    digits ++ List.replicate (place.natAbs - digits.length) '0' ++
      (if style.keepsPoint then ['.', '0'] else [])
  else
    digits.take place.natAbs ++ '.' :: digits.drop place.natAbs

def text (style : DecimalStyle) : Binary64 → String
  | nan _ => "NaN"
  | infinity negative => if negative then "-inf" else "inf"
  | finite negative quanta =>
      let digits :=
        if quanta = 0 then
          if style.keepsPoint then ['0', '.', '0'] else ['0']
        else
          layOut style (shortest style.tie quanta)
      String.ofList (if negative then '-' :: digits else digits)

/-- The nearest whole number to a magnitude scaled by a power of ten, ties to
even. -/
def scaledToWhole (places quanta : Nat) : Nat :=
  Tie.toEven.roundQuotient (quanta * Nat.pow 10 places) one

/-- Text of a number with a fixed count of decimal places. -/
def fixed (places : Nat) : Binary64 → String
  | nan _ => "NaN"
  | infinity negative => if negative then "-inf" else "inf"
  | finite negative quanta =>
      let whole := scaledToWhole places quanta
      let fraction := (Nat.toDigits 10 (whole % Nat.pow 10 places)).leftpad places '0'
      let digits := Nat.toDigits 10 (whole / Nat.pow 10 places) ++ '.' :: fraction
      String.ofList (if negative then '-' :: digits else digits)

/-- Round a number to a whole one, ties away from zero. -/
def roundToWhole : Binary64 → Binary64
  | finite negative quanta =>
      finite negative (Tie.awayFromZero.roundQuotient quanta one * one)
  | other => other

end Binary64

end CallLedger

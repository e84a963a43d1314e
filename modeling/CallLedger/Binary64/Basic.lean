/-!
# 64-bit binary floating point

Every finite number of the format is a whole multiple of the smallest one,
`2 ^ -1074`, so a finite magnitude is written as the natural number of such quanta.
Comparison is comparison of naturals, and an arithmetic result is the exact rational
result rounded to the spacing that numbers of its size have, with ties to even.
-/

namespace CallLedger

/-- Which neighbour a quotient halfway between two whole numbers goes to. -/
inductive Tie where
  | toEven
  | awayFromZero
  deriving DecidableEq, Repr

/-- Nearest whole number to a quotient. -/
def Tie.roundQuotient (tie : Tie) (numerator denominator : Nat) : Nat :=
  let below := numerator / denominator
  let rest := numerator % denominator
  if 2 * rest < denominator then
    below
  else if denominator < 2 * rest then
    below + 1
  else
    match tie with
    | .toEven => below + below % 2
    | .awayFromZero => below + 1

/-- The rounded quotient is at most half a unit away from the exact one. -/
theorem Tie.roundQuotient_near (tie : Tie) (numerator : Nat) {denominator : Nat}
    (positive : 0 < denominator) :
    2 * (tie.roundQuotient numerator denominator * denominator) ≤
        2 * numerator + denominator ∧
      2 * numerator ≤
        2 * (tie.roundQuotient numerator denominator * denominator) + denominator := by
  have split := Nat.div_add_mod numerator denominator
  have small := Nat.mod_lt numerator positive
  have parity : (numerator / denominator) % 2 = 0 ∨ (numerator / denominator) % 2 = 1 := by
    omega
  rw [Nat.mul_comm] at split
  have next : (numerator / denominator + 1) * denominator =
      numerator / denominator * denominator + denominator := Nat.succ_mul ..
  simp only [roundQuotient]
  split
  · omega
  · split
    · omega
    · cases tie
      · rcases parity with even | odd
        · simp only [even, Nat.add_zero]
          omega
        · simp only [odd]
          omega
      · simp only
        omega

/-- A number in 64-bit binary floating point. -/
inductive Binary64 where
  | nan (negative : Bool)
  | infinity (negative : Bool)
  | finite (negative : Bool) (quanta : Nat)
  deriving DecidableEq, Repr

namespace Binary64

/-- Quanta in the number one. -/
def one : Nat := Nat.pow 2 1074

/-- The least number of quanta that is too large to be finite. -/
def overflow : Nat := Nat.pow 2 2098

/-- Distance between neighbouring numbers from this magnitude on: the magnitude's
leading 53 binary digits are kept. -/
def spacing (quanta : Nat) : Nat :=
  Nat.pow 2 (Nat.log2 quanta - 52)

/-- Nearest representable magnitude to a quotient, ties to even. -/
def round (numerator denominator : Nat) : Nat :=
  let unit := spacing (numerator / denominator)
  Tie.toEven.roundQuotient numerator (denominator * unit) * unit

def magnitude (number : Nat) : Nat :=
  round (number * one) 1

def product (left right : Nat) : Nat :=
  round (left * right) one

def quotient (left right : Nat) : Nat :=
  round (left * one) right

/-- The number with this sign and magnitude, infinite beyond the finite range. -/
def ofMagnitude (negative : Bool) (quanta : Nat) : Binary64 :=
  if quanta < overflow then finite negative quanta else infinity negative

/-- The number nearest to a natural number. -/
def ofNat (number : Nat) : Binary64 :=
  ofMagnitude false (magnitude number)

def zero : Binary64 := finite false 0

instance : Inhabited Binary64 := ⟨zero⟩

/-- Place of a number on the line of integers; the two zeros share one.  What is
not a number has no place. -/
def place? : Binary64 → Option Int
  | nan _ => none
  | infinity negative => some (if negative then -overflow else overflow)
  | finite negative quanta => some (if negative then -quanta else quanta)

/-- Order of numbers; false if either side is not a number. -/
def le (left right : Binary64) : Bool :=
  match left.place?, right.place? with
  | some leftPlace, some rightPlace => decide (leftPlace ≤ rightPlace)
  | _, _ => false

/-- The format's 64 bits, read as a natural number. -/
def bits : Binary64 → Nat
  | nan negative => sign negative + 0x7ff8000000000000
  | infinity negative => sign negative + 0x7ff0000000000000
  | finite negative quanta =>
      -- The leading digit carries into the field of the exponent.
      let exponent := Nat.log2 quanta - 52
      sign negative + exponent * Nat.pow 2 52 + quanta / Nat.pow 2 exponent
where
  sign (negative : Bool) : Nat := if negative then Nat.pow 2 63 else 0

end Binary64

end CallLedger

import CallLedger.Proofs.Binary64.Percentage

/-!
# Multiplying by one hundred and dividing again

The share of the whole in itself is one hundred percent, but it is computed by multiplying first
and dividing afterwards.  The quotient is rounded to a multiple of the spacing at one hundred, and
it is off by at most one: if multiplying takes away more than `2 ^ -47` of the whole, the share is
the number next below one hundred.
-/

namespace CallLedger

namespace Binary64

variable {quanta exponent : Nat}

theorem spacing_eq (lower : 2 ^ (exponent + 52) ≤ quanta) (upper : quanta < 2 ^ (exponent + 53)) :
    spacing quanta = 2 ^ exponent :=
  Nat.dvd_antisymm (spacing_dvd_of_lt upper) (dvd_spacing_of_le lower)

/-- The error of rounding is at most `2 ^ -53` of the number. -/
theorem round_near_relative (quanta : Nat) (large : 2 ^ 52 ≤ quanta) :
    2 ^ 53 * round quanta 1 ≤ (2 ^ 53 + 1) * quanta ∧
      (2 ^ 53 - 1) * quanta ≤ 2 ^ 53 * round quanta 1 := by
  have positive : quanta ≠ 0 := by omega
  have digits : 52 ≤ Nat.log2 quanta := (Nat.le_log2 positive).mpr large
  have fine : 2 ^ 52 * spacing quanta ≤ quanta := by
    have split : 2 ^ 52 * spacing quanta = 2 ^ Nat.log2 quanta := by
      rw [spacing, Nat.pow_eq, ← Nat.pow_add, Nat.add_sub_cancel' digits]
    rw [split]
    exact Nat.log2_self_le positive
  have near := round_near quanta Nat.one_pos
  rw [Nat.div_one] at near
  omega

/-- A number of the format is rounded to itself. -/
theorem round_of_onGrid (onGrid : spacing quanta ∣ quanta) : round quanta 1 = quanta := by
  have dvd : spacing (quanta / 1) ∣ quanta := by rwa [Nat.div_one]
  exact Nat.le_antisymm (round_le Nat.one_pos dvd (Nat.mul_one quanta).ge)
    (le_round Nat.one_pos dvd (Nat.mul_one quanta).le)

/-- Whole numbers of at most 53 binary digits and then zeros are numbers of the format. -/
theorem spacing_dvd_mul_one (exponent : Nat) {number : Nat} (lt : number < 2 ^ (exponent + 53))
    (dvd : 2 ^ exponent ∣ number) : spacing (number * one) ∣ number * one := by
  obtain ⟨fine, one_eq⟩ := exists_fine
  rw [one_eq]
  have bound : number * 2 ^ (fine + 7) < 2 ^ (exponent + (fine + 7) + 53) := by
    rw [Nat.add_right_comm, Nat.pow_add _ (exponent + 53)]
    exact Nat.mul_lt_mul_of_pos_right lt (Nat.two_pow_pos _)
  refine Nat.dvd_trans (spacing_dvd_of_lt bound) ?_
  rw [Nat.pow_add]
  exact Nat.mul_dvd_mul_right dvd _

/-- The distance between neighbouring numbers around one hundred. -/
def hundredUnit : Nat :=
  spacing (100 * one)

/-- The number next below one hundred. -/
def belowHundred : Binary64 :=
  finite false (100 * one - hundredUnit)

theorem one_eq_units : one = 2 ^ 46 * hundredUnit := by
  decide +kernel

theorem hundredUnit_pos : 0 < hundredUnit :=
  spacing_pos _

theorem spacing_hundred (lower : 64 * one ≤ quanta) (upper : quanta < 128 * one) :
    spacing quanta = hundredUnit := by
  obtain ⟨fine, one_eq⟩ : ∃ fine, one = 2 ^ (fine + 46) := ⟨1028, by decide +kernel⟩
  have least : 64 * one = 2 ^ (fine + 52) := by
    rw [one_eq, Nat.pow_add _ fine, Nat.pow_add _ fine]
    omega
  have most : 128 * one = 2 ^ (fine + 53) := by
    rw [one_eq, Nat.pow_add _ fine, Nat.pow_add _ fine]
    omega
  have positive := quanta_of_one_pos
  have unit_eq : hundredUnit = 2 ^ fine :=
    spacing_eq (by rw [← least]; omega) (by rw [← most]; omega)
  rw [unit_eq]
  exact spacing_eq (least ▸ lower) (most ▸ upper)

/-- Below a point of a grid the next point is a unit away. -/
theorem le_sub_unit {unit point : Nat} (pointOnGrid : unit ∣ point) (onGrid : unit ∣ quanta)
    (lt : quanta < point) : quanta ≤ point - unit := by
  have unit_le := Nat.le_of_dvd (Nat.zero_lt_of_lt lt) pointOnGrid
  refine Nat.le_of_lt_add_of_dvd ?_ onGrid (Nat.dvd_sub pointOnGrid (Nat.dvd_refl unit))
  rwa [Nat.sub_add_cancel unit_le]

theorem hundredUnit_dvd : hundredUnit ∣ 100 * one := by
  rw [one_eq_units]
  exact Nat.dvd_mul_left_of_dvd (Nat.dvd_mul_left ..) 100

/-- Between one hundred and the number next below lies no number of the format. -/
theorem le_below_of_lt (onGrid : spacing quanta ∣ quanta) (lt : quanta < 100 * one) :
    quanta ≤ 100 * one - hundredUnit := by
  rcases Nat.lt_or_ge quanta (64 * one) with small | large
  · rw [one_eq_units] at small ⊢
    omega
  · rw [spacing_hundred large (by omega)] at onGrid
    exact le_sub_unit hundredUnit_dvd onGrid lt

section Whole

variable {whole : Nat} (large : 2 ^ 52 ≤ whole)

include large

/-- The share of the whole in itself is rounded to a multiple of the spacing at one hundred. -/
theorem quotient_whole :
    quotient (round (100 * whole) 1) whole =
      Tie.toEven.roundQuotient (round (100 * whole) 1 * 2 ^ 46) whole * hundredUnit := by
  have near := round_near_relative (100 * whole) (by omega)
  generalize round (100 * whole) 1 = scaled at near ⊢
  have positive : 0 < whole := by omega
  have lower : 64 * one ≤ scaled * one / whole := by
    rw [Nat.le_div_iff_mul_le positive, Nat.mul_right_comm]
    exact Nat.mul_le_mul_right one (by omega)
  have upper : scaled * one / whole < 128 * one := by
    rw [Nat.div_lt_iff_lt_mul positive, Nat.mul_right_comm]
    exact Nat.mul_lt_mul_of_pos_right (by omega) quanta_of_one_pos
  simp only [quotient, round, spacing_hundred lower upper]
  rw [one_eq_units, ← Nat.mul_assoc, Tie.roundQuotient_mul_right _ _ _ hundredUnit_pos]

theorem hundred_le_quotient_whole :
    100 * one ≤ quotient (round (100 * whole) 1) whole ↔
      2 ^ 47 * (100 * whole - round (100 * whole) 1) ≤ whole := by
  have units : 100 * one = 100 * 2 ^ 46 * hundredUnit := by
    rw [one_eq_units, Nat.mul_assoc]
  rw [quotient_whole large, units, Nat.mul_le_mul_right_iff hundredUnit_pos,
    Tie.le_roundQuotient_toEven (by omega) (by decide)]
  omega

/-- What is lost in rounding is never more than one unit. -/
theorem below_le_quotient_whole :
    100 * one - hundredUnit ≤ quotient (round (100 * whole) 1) whole := by
  have near := round_near_relative (100 * whole) (by omega)
  have units : 100 * one - hundredUnit = (100 * 2 ^ 46 - 1) * hundredUnit := by
    rw [one_eq_units, Nat.sub_mul, Nat.mul_assoc, Nat.one_mul]
  rw [quotient_whole large, units]
  refine Nat.mul_le_mul_right _ (Tie.le_roundQuotient (by omega) ?_)
  omega

/-- If the quotient does not reach one hundred, it is the number next below. -/
theorem quotient_whole_of_lt (short : quotient (round (100 * whole) 1) whole < 100 * one) :
    quotient (round (100 * whole) 1) whole = 100 * one - hundredUnit := by
  refine Nat.le_antisymm (le_sub_unit hundredUnit_dvd ?_ short) (below_le_quotient_whole large)
  rw [quotient_whole large]
  exact Nat.dvd_mul_left ..

end Whole

end Binary64

open Binary64

/-- Multiplying a time by one hundred rounds it down by more than `2 ^ -47` of the time. -/
def Count.FallsShort (time : Count) : Prop :=
  magnitude time.value < 2 ^ 47 *
    (100 * magnitude time.value - product (magnitude 100) (magnitude time.value))

instance (time : Count) : Decidable time.FallsShort :=
  inferInstanceAs (Decidable (_ < _))

/-- Times that are not too long do not fall short. -/
theorem Count.not_fallsShort_of_lt {time : Count} (short : time.value < 2 ^ 48) :
    ¬ time.FallsShort := by
  have exactly : magnitude time.value = time.value * one :=
    round_of_onGrid (spacing_dvd_mul_one 0 (by omega) (Nat.one_dvd _))
  have hundredfold : 100 * (time.value * one) = 100 * time.value * one :=
    (Nat.mul_assoc ..).symm
  have multiplied : round (100 * time.value * one) 1 = 100 * time.value * one :=
    round_of_onGrid (spacing_dvd_mul_one 2 (by omega) (by omega))
  rw [FallsShort, product_comm, product_hundred, exactly, hundredfold, multiplied, Nat.sub_self,
    Nat.mul_zero]
  exact Nat.not_lt_zero _

section Whole

variable {total : Count} (measured : 0 < total.value)

include measured

theorem magnitude_large : 2 ^ 52 ≤ magnitude total.value :=
  Nat.le_trans (by decide +kernel) (one_le_magnitude measured)

theorem percent_whole :
    percent total total = .finite false
      (quotient (round (100 * magnitude total.value) 1) (magnitude total.value)) := by
  rw [percent_eq measured, product_comm, product_hundred]

theorem hundred_le_percent (enough : ¬ total.FallsShort) :
    (finite false (100 * one)).le (percent total total) = true := by
  rw [Count.FallsShort, product_comm, product_hundred, Nat.not_lt] at enough
  rw [percent_whole measured, le_finite, decide_eq_true_iff]
  exact (hundred_le_quotient_whole (magnitude_large measured)).mpr enough

theorem percent_of_fallsShort (short : total.FallsShort) :
    percent total total = belowHundred := by
  rw [Count.FallsShort, product_comm, product_hundred, ← Nat.not_le,
    ← hundred_le_quotient_whole (magnitude_large measured), Nat.not_le] at short
  rw [percent_whole measured, quotient_whole_of_lt (magnitude_large measured) short, belowHundred]

end Whole

end CallLedger

import CallLedger.Binary64.Basic
import CallLedger.Proofs.Decimal.Rounding
import Mathlib.Algebra.Order.Ring.Nat
import Mathlib.Data.Nat.Log

/-!
# Laws of rounding to binary floating point

Around every number lies a grid of numbers with 53 binary digits, whose points are the multiples
of the spacing there.  Rounding does not cross a point of the grid.  Powers of two are points of
the grids of all larger numbers and of the grids of numbers that are not much smaller, so they
bound what rounding can do.
-/

namespace CallLedger.Binary64

variable {numerator denominator quanta exponent : Nat}

theorem spacing_pos (quanta : Nat) : 0 < spacing quanta :=
  Nat.pow_pos (by decide)

/-- The grid of a number includes the powers of two from its last binary digit on. -/
theorem spacing_dvd_of_lt (lt : quanta < 2 ^ (exponent + 53)) : spacing quanta ∣ 2 ^ exponent := by
  refine Nat.pow_dvd_pow 2 ?_
  rcases Nat.eq_zero_or_pos quanta with rfl | positive
  · exact Nat.zero_le exponent
  · have := (Nat.log2_lt (Nat.ne_of_gt positive)).mpr lt
    omega

/-- The grid of a number is no finer than its last binary digit. -/
theorem dvd_spacing_of_le (le : 2 ^ (exponent + 52) ≤ quanta) : 2 ^ exponent ∣ spacing quanta := by
  refine Nat.pow_dvd_pow 2 ?_
  have nonzero := Nat.ne_of_gt (Nat.lt_of_lt_of_le (Nat.two_pow_pos _) le)
  have := (Nat.le_log2 nonzero).mpr le
  omega

/-- Between a power of two and a number above it lies a power of two on the number's grid. -/
theorem exists_pow_onGrid (le : 2 ^ exponent ≤ quanta) :
    ∃ power, 2 ^ exponent ≤ 2 ^ power ∧ 2 ^ power ≤ quanta ∧ spacing quanta ∣ 2 ^ power := by
  have nonzero := Nat.ne_of_gt (Nat.lt_of_lt_of_le (Nat.two_pow_pos _) le)
  exact ⟨Nat.log2 quanta,
    Nat.pow_le_pow_right (by decide) ((Nat.le_log2 nonzero).mpr le), Nat.log2_self_le nonzero,
    Nat.pow_dvd_pow 2 (Nat.sub_le ..)⟩

theorem round_mul_right (numerator denominator : Nat) {scale : Nat} (positive : 0 < scale) :
    round (numerator * scale) (denominator * scale) = round numerator denominator := by
  simp only [round, Nat.mul_div_mul_right _ _ positive]
  rw [Nat.mul_right_comm, Tie.roundQuotient_mul_right _ _ _ positive]

theorem spacing_dvd_round (numerator denominator : Nat) :
    spacing (numerator / denominator) ∣ round numerator denominator :=
  Nat.dvd_mul_left ..

/-- The error of rounding is at most half of the spacing. -/
theorem round_near (numerator : Nat) (positive : 0 < denominator) :
    2 * (round numerator denominator * denominator) ≤
        2 * numerator + denominator * spacing (numerator / denominator) ∧
      2 * numerator ≤ 2 * (round numerator denominator * denominator) +
        denominator * spacing (numerator / denominator) := by
  have rounded_eq : Tie.toEven.roundQuotient numerator
      (denominator * spacing (numerator / denominator)) *
        (denominator * spacing (numerator / denominator)) =
          round numerator denominator * denominator := by
    rw [round, Nat.mul_comm denominator, ← Nat.mul_assoc]
  rw [← rounded_eq]
  exact Tie.toEven.roundQuotient_near numerator (Nat.mul_pos positive (spacing_pos _))

section Grid

variable {point : Nat} (positive : 0 < denominator)
  (onGrid : spacing (numerator / denominator) ∣ point)

include positive onGrid

/-- Rounding does not cross a point of the grid from above. -/
theorem le_round (le : point * denominator ≤ numerator) : point ≤ round numerator denominator := by
  obtain ⟨multiple, rfl⟩ := onGrid
  rw [round, Nat.mul_comm]
  refine Nat.mul_le_mul_right _ (Tie.le_roundQuotient (Nat.mul_pos positive (spacing_pos _)) ?_)
  rwa [Nat.mul_comm denominator, ← Nat.mul_assoc, Nat.mul_comm multiple]

/-- Rounding does not cross a point of the grid from below. -/
theorem round_le (le : numerator ≤ point * denominator) : round numerator denominator ≤ point := by
  obtain ⟨multiple, rfl⟩ := onGrid
  refine (Nat.mul_le_mul_right _ (Tie.roundQuotient_le
    (Nat.mul_pos positive (spacing_pos _)) ?_)).trans (Nat.mul_comm ..).le
  rwa [Nat.mul_comm denominator, ← Nat.mul_assoc, Nat.mul_comm multiple]

end Grid

/-- Rounding up does not go beyond a power of two. -/
theorem round_le_pow (positive : 0 < denominator) (le : numerator ≤ 2 ^ exponent * denominator) :
    round numerator denominator ≤ 2 ^ exponent := by
  refine round_le positive (spacing_dvd_of_lt ?_) le
  refine Nat.lt_of_le_of_lt (Nat.div_le_of_le_mul ?_)
    (Nat.pow_lt_pow_right (by decide) (Nat.lt_add_of_pos_right (by decide)))
  rwa [Nat.mul_comm]

/-- Rounding down does not go below a power of two. -/
theorem pow_le_round (positive : 0 < denominator) (le : 2 ^ exponent * denominator ≤ numerator) :
    2 ^ exponent ≤ round numerator denominator := by
  obtain ⟨power, atLeast, atMost, onGrid⟩ :=
    exists_pow_onGrid ((Nat.le_div_iff_mul_le positive).mpr le)
  exact atLeast.trans
    (le_round positive onGrid ((Nat.le_div_iff_mul_le positive).mp atMost))

/-- Rounding keeps the order. -/
theorem round_mono {left right : Nat} (positive : 0 < denominator) (le : left ≤ right) :
    round left denominator ≤ round right denominator := by
  have floors : left / denominator ≤ right / denominator := Nat.div_le_div_right le
  have digits : Nat.log2 (left / denominator) ≤ Nat.log2 (right / denominator) := by
    rw [Nat.log2_eq_log_two, Nat.log2_eq_log_two]
    exact Nat.log_mono_right floors
  rcases digits.lt_or_eq with fewer | same
  · -- A power of two lies between the two, and rounding does not cross it.
    have below : left / denominator < 2 ^ Nat.log2 (right / denominator) :=
      Nat.lt_of_lt_of_le Nat.lt_log2_self (Nat.pow_le_pow_right (by decide) fewer)
    have nonzero : right / denominator ≠ 0 := by
      intro zero
      rw [zero] at fewer
      exact Nat.not_lt_zero _ fewer
    have reached : 2 ^ Nat.log2 (right / denominator) * denominator ≤ right :=
      (Nat.le_div_iff_mul_le positive).mp (Nat.log2_self_le nonzero)
    exact (round_le_pow positive ((Nat.div_lt_iff_lt_mul positive).mp below).le).trans
      (pow_le_round positive reached)
  · have unit_eq : spacing (left / denominator) = spacing (right / denominator) := by
      rw [spacing, spacing, same]
    rw [round, round, unit_eq]
    exact Nat.mul_le_mul_right _
      (Tie.toEven.roundQuotient_mono (Nat.mul_pos positive (spacing_pos _)) le)

/-- Rounding gives a point of its own grid. -/
theorem spacing_round_dvd (numerator : Nat) (positive : 0 < denominator) :
    spacing (round numerator denominator) ∣ round numerator denominator := by
  obtain ⟨exponent, unit_eq⟩ :
      ∃ exponent, exponent = Nat.log2 (numerator / denominator) - 52 := ⟨_, rfl⟩
  have onGrid : 2 ^ exponent ∣ round numerator denominator := by
    rw [unit_eq]
    exact spacing_dvd_round numerator denominator
  have below : numerator / denominator < 2 ^ (exponent + 53) :=
    Nat.lt_of_lt_of_le Nat.lt_log2_self (Nat.pow_le_pow_right (by decide) (by omega))
  have bound := round_le_pow positive ((Nat.div_lt_iff_lt_mul positive).mp below).le
  rcases bound.lt_or_eq with lt | eq
  · exact Nat.dvd_trans (spacing_dvd_of_lt lt) onGrid
  · -- The digits may carry over, but only to a power of two.
    have carried : round numerator denominator < 2 ^ (exponent + 1 + 53) := by
      rw [eq]
      exact Nat.pow_lt_pow_right (by decide) (by omega)
    refine Nat.dvd_trans (spacing_dvd_of_lt carried) ?_
    rw [eq]
    exact Nat.pow_dvd_pow 2 (by omega)

end CallLedger.Binary64

import CallLedger.Binary64.Basic
import Mathlib.Data.Nat.Basic

/-!
# Laws of rounded quotients

A rounded quotient keeps its place among the whole numbers, depends on the quotient alone, keeps
the order of quotients and is the only whole number less than half a unit away.  Half way already
counts as the next whole number away from zero, and as the next even number.
-/

namespace CallLedger.Tie

variable {tie : Tie} {numerator denominator whole : Nat}

theorem roundQuotient_mul_right (tie : Tie) (numerator denominator : Nat) {scale : Nat}
    (positive : 0 < scale) :
    tie.roundQuotient (numerator * scale) (denominator * scale) =
      tie.roundQuotient numerator denominator := by
  have below : 2 * (numerator % denominator * scale) < denominator * scale ↔
      2 * (numerator % denominator) < denominator := by
    rw [← Nat.mul_assoc, Nat.mul_lt_mul_right positive]
  have above : denominator * scale < 2 * (numerator % denominator * scale) ↔
      denominator < 2 * (numerator % denominator) := by
    rw [← Nat.mul_assoc, Nat.mul_lt_mul_right positive]
  simp only [roundQuotient, Nat.mul_div_mul_right _ _ positive, Nat.mul_mod_mul_right, below, above]

theorem le_roundQuotient (positive : 0 < denominator) (le : whole * denominator ≤ numerator) :
    whole ≤ tie.roundQuotient numerator denominator := by
  have floor_le : whole ≤ numerator / denominator := (Nat.le_div_iff_mul_le positive).mpr le
  simp only [roundQuotient]
  split
  · exact floor_le
  · split
    · omega
    · cases tie <;> simp only <;> omega

/-- Only one whole number is less than half a unit away. -/
theorem roundQuotient_eq_of_near (above : 2 * numerator < (2 * whole + 1) * denominator)
    (below : 2 * (whole * denominator) < 2 * numerator + denominator) :
    tie.roundQuotient numerator denominator = whole := by
  have positive : 0 < denominator := Nat.pos_of_ne_zero (by rintro rfl; omega)
  obtain ⟨most, least⟩ := tie.roundQuotient_near numerator positive
  generalize tie.roundQuotient numerator denominator = rounded at most least
  have fits : rounded * denominator < (whole + 1) * denominator := by
    rw [Nat.add_mul] at above ⊢
    rw [Nat.mul_assoc] at above
    omega
  have reaches : whole * denominator < (rounded + 1) * denominator := by
    rw [Nat.add_mul]
    omega
  exact Nat.le_antisymm (Nat.le_of_lt_succ (Nat.lt_of_mul_lt_mul_right fits))
    (Nat.le_of_lt_succ (Nat.lt_of_mul_lt_mul_right reaches))

@[simp] theorem roundQuotient_mul (tie : Tie) (whole : Nat) (positive : 0 < denominator) :
    tie.roundQuotient (whole * denominator) denominator = whole :=
  roundQuotient_eq_of_near (by rw [Nat.add_mul, Nat.mul_assoc]; omega) (by omega)

theorem roundQuotient_le (positive : 0 < denominator) (le : numerator ≤ whole * denominator) :
    tie.roundQuotient numerator denominator ≤ whole := by
  obtain ⟨most, _⟩ := tie.roundQuotient_near numerator positive
  generalize tie.roundQuotient numerator denominator = rounded at most
  have fits : rounded * denominator < (whole + 1) * denominator := by
    rw [Nat.add_mul]
    omega
  exact Nat.le_of_lt_succ (Nat.lt_of_mul_lt_mul_right fits)

/-- Rounding keeps the order. -/
theorem roundQuotient_mono (tie : Tie) {left right : Nat} (positive : 0 < denominator)
    (le : left ≤ right) :
    tie.roundQuotient left denominator ≤ tie.roundQuotient right denominator := by
  have leftSplit := Nat.div_add_mod left denominator
  have rightSplit := Nat.div_add_mod right denominator
  have leftRest := Nat.mod_lt left positive
  have next : left ≤ (left / denominator + 1) * denominator := by
    rw [Nat.add_mul, Nat.mul_comm]
    omega
  have floors : left / denominator ≤ right / denominator := Nat.div_le_div_right le
  rcases Nat.lt_or_eq_of_le floors with lt | same
  · -- Rounding up reaches the next whole number at most.
    exact Nat.le_trans (roundQuotient_le positive next)
      (Nat.le_trans lt (le_roundQuotient positive (Nat.div_mul_le_self ..)))
  · rcases Nat.lt_or_eq_of_le le with lt | rfl
    · rw [same] at leftSplit next
      by_cases down : 2 * (left % denominator) < denominator
      · have floor_eq : tie.roundQuotient left denominator = right / denominator := by
          simp only [roundQuotient, if_pos down, same]
        rw [floor_eq]
        exact le_roundQuotient positive (Nat.div_mul_le_self ..)
      · -- The larger rest is more than half, so the right side is rounded up.
        have up_eq : tie.roundQuotient right denominator = right / denominator + 1 := by
          simp only [roundQuotient]
          rw [if_neg (by omega), if_pos (by omega)]
        rw [up_eq]
        exact roundQuotient_le positive next
    · exact Nat.le_refl _

/-- Half way below an even number already counts as the number. -/
theorem le_roundQuotient_toEven {numerator denominator whole : Nat} (positive : 0 < denominator)
    (even : whole % 2 = 0) :
    whole ≤ toEven.roundQuotient numerator denominator ↔
      2 * (whole * denominator) ≤ 2 * numerator + denominator := by
  constructor
  · intro reached
    have near := (toEven.roundQuotient_near numerator positive).1
    have := Nat.mul_le_mul_right denominator reached
    omega
  · intro near
    rcases Nat.lt_or_ge numerator (whole * denominator) with short | reached
    · -- The quotient is between the odd number before and the even number itself.
      obtain ⟨before, rfl⟩ : ∃ before, whole = before + 1 :=
        Nat.exists_eq_succ_of_ne_zero (by rintro rfl; omega)
      have next : (before + 1) * denominator = before * denominator + denominator :=
        Nat.succ_mul ..
      have floor_eq : numerator / denominator = before :=
        Nat.div_eq_of_lt_le (by omega) short
      have split := Nat.div_add_mod numerator denominator
      rw [floor_eq, Nat.mul_comm] at split
      simp only [roundQuotient, floor_eq]
      split
      next => omega
      next => split <;> omega
    · exact le_roundQuotient positive reached

/-- Half way already counts as the next whole number. -/
theorem lt_roundQuotient_awayFromZero (positive : 0 < denominator) :
    whole < awayFromZero.roundQuotient numerator denominator ↔
      (2 * whole + 1) * denominator ≤ 2 * numerator := by
  have split := Nat.div_add_mod numerator denominator
  have small := Nat.mod_lt numerator positive
  rw [Nat.mul_comm] at split
  have rounded : awayFromZero.roundQuotient numerator denominator =
      (2 * numerator + denominator) / (2 * denominator) := by
    symm
    simp only [roundQuotient]
    split
    next => exact Nat.div_eq_of_lt_le (by grind) (by grind)
    next => split <;> exact Nat.div_eq_of_lt_le (by grind) (by grind)
  rw [rounded, ← Nat.succ_le_iff, Nat.le_div_iff_mul_le (by omega)]
  grind

/-- A number is at most half a unit away from the whole number it is rounded to. -/
theorem roundQuotient_between (tie : Tie) (numerator : Nat) {half : Nat} (positive : 0 < half) :
    (2 * tie.roundQuotient numerator (2 * half) - 1) * half ≤ numerator ∧
      numerator ≤ (2 * tie.roundQuotient numerator (2 * half) + 1) * half := by
  have near := tie.roundQuotient_near numerator (Nat.mul_pos Nat.two_pos positive)
  generalize tie.roundQuotient numerator (2 * half) = rounded at near ⊢
  rw [Nat.mul_left_comm rounded] at near
  rw [Nat.sub_mul, Nat.add_mul, Nat.mul_assoc]
  omega

/-- A number from half a unit below a whole number to half a unit above it is rounded away from
the whole number only at the upper end. -/
theorem roundQuotient_awayFromZero_of_between {half : Nat} (positive : 0 < half)
    (lower : (2 * whole - 1) * half ≤ numerator) (upper : numerator ≤ (2 * whole + 1) * half) :
    awayFromZero.roundQuotient numerator (2 * half) =
      if numerator = (2 * whole + 1) * half then whole + 1 else whole := by
  have unit : 0 < 2 * half := by omega
  have atLeast : whole ≤ awayFromZero.roundQuotient numerator (2 * half) := by
    cases whole with
    | zero => exact Nat.zero_le _
    | succ whole =>
        refine (lt_roundQuotient_awayFromZero unit).mpr ?_
        rw [Nat.mul_left_comm]
        exact Nat.mul_le_mul_left 2 lower
  have above : whole < awayFromZero.roundQuotient numerator (2 * half) ↔
      numerator = (2 * whole + 1) * half := by
    rw [lt_roundQuotient_awayFromZero unit, Nat.mul_left_comm,
      Nat.mul_le_mul_left_iff (by decide)]
    exact ⟨Nat.le_antisymm upper, fun equal => Nat.le_of_eq equal.symm⟩
  have atMost : awayFromZero.roundQuotient numerator (2 * half) ≤ whole + 1 := by
    refine roundQuotient_le unit (Nat.le_trans upper ?_)
    rw [Nat.mul_left_comm, ← Nat.mul_assoc]
    exact Nat.mul_le_mul_right half (by omega)
  split
  next equal => exact Nat.le_antisymm atMost (above.mpr equal)
  next notEqual => exact Nat.le_antisymm (Nat.le_of_not_lt (mt above.mp notEqual)) atLeast

end CallLedger.Tie

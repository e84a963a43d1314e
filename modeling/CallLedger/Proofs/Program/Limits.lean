import CallLedger.Job
import Mathlib.Algebra.Order.Field.Rat
import Mathlib.Data.Rat.Cast.Order

/-!
# Limits that make sense

A job lists at least one block, shows at least one edge, and leaves out blocks below a
percentage.  Percentages are the floating-point numbers whose value lies between 0 and 100: no
infinite one, and nothing that is not a number.
-/

namespace CallLedger

namespace Binary64

/-- The value of a finite number. -/
def value? : Binary64 → Option ℚ
  | nan _ | infinity _ => none
  | finite negative quanta => some ((if negative then -(quanta : ℚ) else quanta) / one)

/-- A number between 0 and 100. -/
def IsPercentage (number : Binary64) : Prop :=
  ∃ value, number.value? = some value ∧ 0 ≤ value ∧ value ≤ 100

theorem one_pos : (0 : ℚ) < one :=
  Nat.cast_pos.mpr (by decide +kernel)

/-- The place of a finite number is its value, in quanta. -/
theorem isPercentage_finite_iff {negative : Bool} {quanta : Nat} :
    IsPercentage (finite negative quanta) ↔
      0 ≤ (if negative then -(quanta : Int) else quanta) ∧
        (if negative then -(quanta : Int) else quanta) ≤ (100 * one : Nat) := by
  have signed : (if negative then -(quanta : ℚ) else quanta) =
      ((if negative then -(quanta : Int) else quanta : Int) : ℚ) := by
    cases negative <;> simp
  simp only [IsPercentage, value?, Option.some.injEq, exists_eq_left']
  rw [signed, le_div_iff₀ one_pos, zero_mul, div_le_iff₀ one_pos]
  norm_cast

theorem le_nan (left : Binary64) (negative : Bool) : left.le (nan negative) = false := by
  rw [le]
  cases left.place? with
  | none => rfl
  | some place => rfl

theorem not_isPercentage_infinity (negative : Bool) : ¬ IsPercentage (infinity negative) := by
  rintro ⟨value, valued, _⟩
  cases valued

theorem not_isPercentage_nan (negative : Bool) : ¬ IsPercentage (nan negative) := by
  rintro ⟨value, valued, _⟩
  cases valued

end Binary64

namespace Job

theorem wholeShare_eq : wholeShare = .finite false (100 * Binary64.one) := by
  decide +kernel

/-- Numbers are compared by their places, which infinite ones have, too. -/
theorem le_and_le_iff {threshold : Binary64} :
    (Binary64.zero.le threshold && threshold.le wholeShare) = true ↔ threshold.IsPercentage := by
  rw [wholeShare_eq]
  cases threshold with
  | nan negative => simp [Binary64.le_nan, Binary64.not_isPercentage_nan]
  | infinity negative =>
      -- The place of an infinite number lies beyond those of all finite ones.
      have refused : (Binary64.zero.le (.infinity negative) &&
          (Binary64.infinity negative).le (.finite false (100 * Binary64.one))) = false := by
        cases negative <;> decide +kernel
      simp [refused, Binary64.not_isPercentage_infinity]
  | finite negative quanta =>
      rw [Binary64.isPercentage_finite_iff, Bool.and_eq_true]
      exact and_congr decide_eq_true_iff decide_eq_true_iff

end Job

end CallLedger

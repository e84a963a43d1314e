import CallLedger.Proofs.Binary64.Hundredths

/-!
# Shares as numbers

A share of a total is always finite.  Each of the three roundings it goes through keeps the order
of what it rounds, so of two parts of a total the larger one never has the smaller share.
-/

namespace CallLedger

namespace Binary64

section Order

variable {left right : Nat}

theorem magnitude_mono (le : left ≤ right) : magnitude left ≤ magnitude right :=
  round_mono Nat.one_pos (Nat.mul_le_mul_right one le)

theorem product_mono (factor : Nat) (le : left ≤ right) :
    product factor left ≤ product factor right :=
  round_mono quanta_of_one_pos (Nat.mul_le_mul_left factor le)

theorem quotient_mono {divisor : Nat} (positive : 0 < divisor) (le : left ≤ right) :
    quotient left divisor ≤ quotient right divisor :=
  round_mono positive (Nat.mul_le_mul_right one le)

end Order

theorem le_iff {left right : Binary64} :
    left.le right = true ↔
      ∃ leftPlace rightPlace, left.place? = some leftPlace ∧ right.place? = some rightPlace ∧
        leftPlace ≤ rightPlace := by
  rw [le]
  cases left.place? <;> cases right.place? <;> simp

theorem le_trans {first second third : Binary64} (before : first.le second = true)
    (after : second.le third = true) : first.le third = true := by
  obtain ⟨least, middle, first_eq, second_eq, below⟩ := le_iff.mp before
  obtain ⟨same, most, second_eq', third_eq, above⟩ := le_iff.mp after
  obtain rfl : middle = same := Option.some.inj (second_eq.symm.trans second_eq')
  exact le_iff.mpr ⟨least, most, first_eq, third_eq, below.trans above⟩

@[simp] theorem le_finite (left right : Nat) :
    (finite false left).le (finite false right) = decide (left ≤ right) :=
  decide_eq_decide.mpr Int.ofNat_le

end Binary64

open Binary64

section Measured

variable {total : Count} (measured : 0 < total.value)

include measured

theorem magnitude_total_pos : 0 < magnitude total.value :=
  Nat.lt_of_lt_of_le quanta_of_one_pos (one_le_magnitude measured)

theorem share_le (part : Count) :
    quotient (product (magnitude 100) (magnitude part.value)) (magnitude total.value) ≤
      2 ^ 71 * one := by
  have part_le : part.value ≤ 2 ^ 64 := Nat.le_trans part.value_le (by decide)
  have product_le : product (magnitude 100) (magnitude part.value) ≤ 2 ^ 71 * one := by
    rw [product_comm]
    exact product_hundred_le (magnitude_le part_le) rfl
  exact round_le_pow_mul_one (magnitude_total_pos measured)
    (Nat.mul_le_mul product_le (one_le_magnitude measured))

theorem percent_eq (part : Count) :
    percent part total = .finite false
      (quotient (product (magnitude 100) (magnitude part.value)) (magnitude total.value)) := by
  have small := share_le measured part
  rw [percent, if_neg (Nat.ne_of_gt measured), ofMagnitude, if_pos (lt_overflow (by omega))]

end Measured

theorem percent_of_unmeasured {total : Count} (part : Count) (unmeasured : total.value = 0) :
    percent part total = .zero := by
  rw [percent, if_pos unmeasured]

/-- A share of a total is a finite number that is not too large. -/
theorem percent_finite (part total : Count) :
    ∃ quanta, percent part total = .finite false quanta ∧ quanta ≤ 2 ^ 71 * one ∧
      spacing quanta ∣ quanta := by
  rcases Nat.eq_zero_or_pos total.value with unmeasured | measured
  · exact ⟨0, percent_of_unmeasured part unmeasured, Nat.zero_le _, Nat.dvd_zero _⟩
  · exact ⟨_, percent_eq measured part, share_le measured part,
      spacing_round_dvd _ (magnitude_total_pos measured)⟩

/-- Of two parts of a total the larger one never has the smaller share. -/
theorem percent_mono {part other : Count} (total : Count) (le : part ≤ other) :
    (percent part total).le (percent other total) = true := by
  rcases Nat.eq_zero_or_pos total.value with unmeasured | measured
  · rw [percent_of_unmeasured part unmeasured, percent_of_unmeasured other unmeasured]
    rfl
  · rw [percent_eq measured, percent_eq measured, le_finite, decide_eq_true_iff]
    exact quotient_mono (magnitude_total_pos measured) (product_mono _ (magnitude_mono le))

end CallLedger

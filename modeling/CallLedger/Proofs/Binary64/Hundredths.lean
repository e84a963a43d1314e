import CallLedger.Proofs.Binary64.Rounding
import CallLedger.Ranking
import Mathlib.Data.List.Basic

/-!
# Two ways to two decimal places

A number can be written with two decimal places, which rounds its exact value once, or it can be
scaled up, rounded to a whole number and scaled down again, which rounds three times.  Up to
`2 ^ 46` hundredths are told apart by the format and the two ways differ only where the number
scaled up is rounded to half way between two whole numbers.  From there on different numbers
differ by more than a hundredth, so the two ways agree only if the number itself comes back.
-/

namespace CallLedger.Binary64

/-- One is a power of two.  Its exponent stays abstract because powers this large are not to be
computed; a hundredth lies between one divided by `2 ^ 6` and one divided by `2 ^ 7`. -/
theorem exists_fine : ∃ fine, one = 2 ^ (fine + 7) :=
  ⟨1067, by decide +kernel⟩

theorem quanta_of_one_pos : 0 < one := by
  obtain ⟨fine, one_eq⟩ := exists_fine
  rw [one_eq]
  exact Nat.two_pow_pos _

theorem lt_overflow {quanta : Nat} (le : quanta ≤ 2 ^ 78 * one) : quanta < overflow :=
  Nat.lt_of_le_of_lt le (by decide +kernel)

section Bounds

variable {numerator denominator : Nat} (positive : 0 < denominator)

include positive

theorem round_le_pow_mul_one {exponent : Nat}
    (le : numerator ≤ 2 ^ exponent * one * denominator) :
    round numerator denominator ≤ 2 ^ exponent * one := by
  obtain ⟨fine, one_eq⟩ := exists_fine
  rw [one_eq, ← Nat.pow_add] at le ⊢
  exact round_le_pow positive le

theorem one_le_round (le : one * denominator ≤ numerator) : one ≤ round numerator denominator := by
  obtain ⟨fine, one_eq⟩ := exists_fine
  rw [one_eq] at le ⊢
  exact pow_le_round positive le

end Bounds

theorem magnitude_le {number exponent : Nat} (le : number ≤ 2 ^ exponent) :
    magnitude number ≤ 2 ^ exponent * one := by
  refine round_le_pow_mul_one Nat.one_pos ?_
  rw [Nat.mul_one]
  exact Nat.mul_le_mul_right one le

theorem one_le_magnitude {number : Nat} (positive : 0 < number) : one ≤ magnitude number := by
  refine one_le_round Nat.one_pos ?_
  rw [Nat.mul_one]
  exact Nat.le_mul_of_pos_left one positive

theorem magnitude_hundred : magnitude 100 = 100 * one := by
  decide +kernel

theorem product_hundred (quanta : Nat) :
    product quanta (magnitude 100) = round (100 * quanta) 1 := by
  rw [product, magnitude_hundred, ← round_mul_right (100 * quanta) 1 quanta_of_one_pos,
    Nat.one_mul, Nat.mul_left_comm, Nat.mul_assoc]

theorem product_comm (left right : Nat) : product left right = product right left := by
  rw [product, product, Nat.mul_comm]

theorem product_hundred_le {quanta exponent power : Nat} (le : quanta ≤ 2 ^ exponent * one)
    (fits : exponent + 7 = power) : product quanta (magnitude 100) ≤ 2 ^ power * one := by
  rw [product_hundred, ← fits]
  refine round_le_pow_mul_one Nat.one_pos ?_
  rw [Nat.mul_one, Nat.pow_add, Nat.mul_right_comm]
  omega

theorem quotient_hundred (quanta : Nat) : quotient quanta (magnitude 100) = round quanta 100 := by
  rw [quotient, magnitude_hundred, round_mul_right _ _ quanta_of_one_pos]

theorem scaledToWhole_two (quanta : Nat) :
    scaledToWhole 2 quanta = Tie.toEven.roundQuotient (100 * quanta) one := by
  rw [scaledToWhole, Nat.mul_comm]

/-- Number of hundredths that a number scaled up is rounded to. -/
def scaledHundredths (quanta : Nat) : Nat :=
  Tie.awayFromZero.roundQuotient (product quanta (magnitude 100)) one

/-- Scaling a number up takes it half way above its nearest number of hundredths. -/
def IsHalfway (quanta : Nat) : Prop :=
  2 * product quanta (magnitude 100) = (2 * scaledToWhole 2 quanta + 1) * one

instance (quanta : Nat) : Decidable (IsHalfway quanta) :=
  inferInstanceAs (Decidable (_ = _))

/-- What scaling up, rounding and scaling down makes of a magnitude. -/
def roundTrip (quanta : Nat) : Nat :=
  quotient (scaledHundredths quanta * one) (magnitude 100)

section Small

variable {quanta : Nat} (small : quanta < 2 ^ 46 * one)

include small

theorem spacing_dvd_one : spacing (100 * quanta) ∣ one := by
  obtain ⟨fine, one_eq⟩ := exists_fine
  rw [one_eq] at small ⊢
  refine spacing_dvd_of_lt ?_
  rw [Nat.pow_add _ (fine + 7)]
  omega

/-- Rounded to whole numbers, the number scaled up differs from the nearest number of hundredths
only half way above it. -/
theorem scaledHundredths_eq :
    scaledHundredths quanta =
      if IsHalfway quanta then scaledToWhole 2 quanta + 1 else scaledToWhole 2 quanta := by
  obtain ⟨fine, one_eq⟩ := exists_fine
  simp only [scaledHundredths, IsHalfway, product_hundred, scaledToWhole_two]
  generalize hundreds : Tie.toEven.roundQuotient (100 * quanta) one = nearest
  rcases Nat.lt_or_ge (100 * quanta) (2 ^ (fine + 6 + 53)) with halves | wholes
  · -- Half hundredths lie on the grid, so rounding cannot cross them.
    have onGrid (odd : Nat) : spacing (100 * quanta / 1) ∣ odd * 2 ^ (fine + 6) := by
      rw [Nat.div_one]
      exact Nat.dvd_mul_left_of_dvd (spacing_dvd_of_lt halves) odd
    have one_eq_twice : one = 2 * 2 ^ (fine + 6) := by
      rw [one_eq, Nat.pow_succ', Nat.pow_succ']
    obtain ⟨least, most⟩ :=
      Tie.toEven.roundQuotient_between (100 * quanta) (Nat.two_pow_pos (fine + 6))
    rw [← one_eq_twice, hundreds] at least most
    have lower := le_round Nat.one_pos (onGrid _) ((Nat.mul_one _).trans_le least)
    have upper := round_le Nat.one_pos (onGrid _) (most.trans_eq (Nat.mul_one _).symm)
    have doubled : 2 * round (100 * quanta) 1 = (2 * nearest + 1) * one ↔
        round (100 * quanta) 1 = (2 * nearest + 1) * 2 ^ (fine + 6) := by
      rw [one_eq_twice, Nat.mul_left_comm, Nat.mul_right_inj (by decide)]
    simp only [doubled]
    rw [one_eq_twice]
    exact Tie.roundQuotient_awayFromZero_of_between (Nat.two_pow_pos _) lower upper
  · -- Whole hundredths make up the grid, so both ways round once to the same grid.
    have one_dvd : one ∣ spacing (100 * quanta) := by
      rw [one_eq]
      exact dvd_spacing_of_le wholes
    have unit_eq := Nat.dvd_antisymm (spacing_dvd_one small) one_dvd
    have rounded : round (100 * quanta) 1 = nearest * one := by
      rw [round, Nat.div_one, Nat.one_mul, unit_eq, hundreds]
    have positive := quanta_of_one_pos
    rw [rounded, Tie.roundQuotient_mul _ _ positive, if_neg (by grind)]

theorem scaledHundredths_le : scaledHundredths quanta ≤ 2 ^ 46 * 100 := by
  rw [scaledHundredths, product_hundred]
  refine Tie.roundQuotient_le quanta_of_one_pos (round_le Nat.one_pos ?_ (by omega))
  rw [Nat.div_one]
  exact Nat.dvd_mul_left_of_dvd (spacing_dvd_one small) _

end Small

/-- Scaling a number up, rounding it and scaling it down again, as far as the numbers are
finite. -/
theorem roundToHundredths_eq {number : Binary64} {negative : Bool} {quanta whole : Nat}
    (number_eq : number = .finite negative quanta)
    (scaled : (ofMagnitude negative (product quanta (magnitude 100))).roundToWhole =
      .finite negative whole) :
    roundToHundredths number = ofMagnitude negative (quotient whole (magnitude 100)) := by
  -- Unfolding on a finite number would try to compute the product.
  fun_cases roundToHundredths number with
  | case1 sign count otherSign others rounded =>
      cases number_eq
      rw [scaled] at rounded
      cases rounded
      rfl
  | case2 sign count notFinite =>
      cases number_eq
      exact absurd scaled (notFinite negative whole)
  | case3 =>
      next notFinite => exact absurd number_eq (notFinite negative quanta)

/-- Scaling up and down does not make a number infinite that is not extremely large. -/
theorem roundToHundredths_finite {quanta : Nat} (bound : quanta ≤ 2 ^ 71 * one) (negative : Bool) :
    roundToHundredths (.finite negative quanta) = .finite negative (roundTrip quanta) := by
  have scaled_le : product quanta (magnitude 100) ≤ 2 ^ 78 * one :=
    product_hundred_le bound rfl
  have whole_le : scaledHundredths quanta ≤ 2 ^ 78 :=
    Tie.roundQuotient_le quanta_of_one_pos scaled_le
  have trip_le : roundTrip quanta ≤ 2 ^ 78 * one := by
    rw [roundTrip, quotient_hundred]
    refine round_le_pow_mul_one (by decide) ?_
    have := Nat.mul_le_mul_right one whole_le
    omega
  have up : (ofMagnitude negative (product quanta (magnitude 100))).roundToWhole =
      .finite negative (scaledHundredths quanta * one) := by
    rw [ofMagnitude, if_pos (lt_overflow scaled_le), roundToWhole, scaledHundredths]
  rw [roundToHundredths_eq rfl up, ofMagnitude, if_pos]
  · rw [roundTrip]
  · rw [← roundTrip]
    exact lt_overflow trip_le

/-- Scaling down a number of hundredths that is not too large keeps the number. -/
theorem scaledToWhole_quotient {whole : Nat} (bound : whole ≤ 2 ^ 46 * 100) :
    scaledToWhole 2 (quotient (whole * one) (magnitude 100)) = whole := by
  obtain ⟨fine, one_eq⟩ := exists_fine
  rw [quotient_hundred, scaledToWhole_two]
  have one_split : one = 128 * 2 ^ fine := by
    rw [one_eq, Nat.pow_add, Nat.mul_comm]
  have most : whole * one ≤ 2 ^ (fine + 53) * 100 := by
    rw [one_split, Nat.mul_left_comm, Nat.pow_add]
    have := Nat.mul_le_mul_right (2 ^ fine) bound
    omega
  have hundred : 0 < 100 := by decide
  rcases Nat.lt_or_ge (whole * one / 100) (2 ^ (fine + 53)) with below | above
  · have unit_le := Nat.le_of_dvd (Nat.two_pow_pos fine) (spacing_dvd_of_lt below)
    have near := round_near (whole * one) hundred
    have positive := Nat.two_pow_pos fine
    refine Tie.roundQuotient_eq_of_near ?_ ?_
    · rw [Nat.add_mul, Nat.mul_assoc]
      omega
    · omega
  · have equal : whole * one = 2 ^ (fine + 53) * 100 :=
      most.antisymm ((Nat.le_div_iff_mul_le hundred).mp above)
    have exactly : round (2 ^ (fine + 53) * 100) 100 = 2 ^ (fine + 53) :=
      Nat.le_antisymm (round_le_pow hundred (Nat.le_refl _)) (pow_le_round hundred (Nat.le_refl _))
    rw [equal, exactly, Nat.mul_comm, ← equal, Tie.roundQuotient_mul _ _ quanta_of_one_pos]

/-- In the range where hundredths are told apart the round trip keeps the hundredths. -/
theorem scaledToWhole_roundTrip {quanta : Nat} (small : quanta < 2 ^ 46 * one) :
    scaledToWhole 2 (roundTrip quanta) =
      if IsHalfway quanta then scaledToWhole 2 quanta + 1 else scaledToWhole 2 quanta := by
  rw [roundTrip, scaledToWhole_quotient (scaledHundredths_le small), scaledHundredths_eq small]

/-- Numbers on a grid that is coarser than hundredths differ in hundredths. -/
theorem eq_of_scaledToWhole_eq {fine left right : Nat} (one_eq : one = 2 ^ (fine + 7))
    (leftOnGrid : 2 ^ (fine + 1) ∣ left) (rightOnGrid : 2 ^ (fine + 1) ∣ right)
    (equal : scaledToWhole 2 left = scaledToWhole 2 right) : left = right := by
  obtain ⟨before, rfl⟩ := leftOnGrid
  obtain ⟨after, rfl⟩ := rightOnGrid
  rw [scaledToWhole_two, scaledToWhole_two] at equal
  have nearLeft := Tie.toEven.roundQuotient_near (100 * (2 ^ (fine + 1) * before)) quanta_of_one_pos
  have nearRight := Tie.toEven.roundQuotient_near (100 * (2 ^ (fine + 1) * after)) quanta_of_one_pos
  have one_split : one = 64 * 2 ^ (fine + 1) := by
    rw [one_eq, Nat.pow_add _ (fine + 1) 6, Nat.mul_comm]
  rw [equal] at nearLeft
  rw [one_split] at nearLeft nearRight
  have positive := Nat.two_pow_pos (fine + 1)
  have step {least most : Nat} (lt : least < most) :
      2 ^ (fine + 1) * least + 2 ^ (fine + 1) ≤ 2 ^ (fine + 1) * most :=
    Nat.mul_le_mul_left _ lt
  rcases Nat.lt_trichotomy before after with lt | same | lt
  · have := step lt
    omega
  · rw [same]
  · have := step lt
    omega

section Coarse

variable {quanta : Nat} (coarse : 2 ^ 46 * one ≤ quanta)

include coarse

/-- Beyond that range the hundredfold is rounded to whole numbers at least. -/
theorem one_dvd_product : one ∣ product quanta (magnitude 100) := by
  obtain ⟨fine, one_eq⟩ := exists_fine
  have large : 2 ^ (fine + 7 + 52) ≤ 100 * quanta := by
    rw [one_eq] at coarse
    rw [Nat.pow_add _ (fine + 7)]
    omega
  rw [product_hundred, one_eq]
  refine Nat.dvd_trans (dvd_spacing_of_le large) ?_
  have onGrid := spacing_dvd_round (100 * quanta) 1
  rwa [Nat.div_one] at onGrid

theorem not_isHalfway : ¬ IsHalfway quanta := by
  obtain ⟨whole, product_eq⟩ := one_dvd_product coarse
  rw [IsHalfway, product_eq, Nat.mul_left_comm, Nat.mul_comm]
  intro equal
  have := Nat.eq_of_mul_eq_mul_right quanta_of_one_pos equal
  omega

theorem scaledHundredths_mul_one :
    scaledHundredths quanta * one = product quanta (magnitude 100) := by
  obtain ⟨whole, product_eq⟩ := one_dvd_product coarse
  rw [scaledHundredths, product_eq, Nat.mul_comm one, Tie.roundQuotient_mul _ _ quanta_of_one_pos]

theorem le_product : 2 ^ 46 * one * 100 ≤ product quanta (magnitude 100) := by
  obtain ⟨fine, one_eq⟩ := exists_fine
  rw [product_hundred]
  rcases Nat.lt_or_ge (100 * quanta) (2 ^ (fine + 7 + 53)) with fits | large
  · refine le_round Nat.one_pos ?_ (by omega)
    rw [Nat.div_one, one_eq, Nat.mul_right_comm]
    exact Nat.dvd_mul_left_of_dvd (spacing_dvd_of_lt fits) _
  · refine Nat.le_trans ?_ (pow_le_round Nat.one_pos (by rwa [Nat.mul_one]))
    rw [one_eq, Nat.pow_add _ (fine + 7)]
    omega

/-- The round trip does not leave the grid. -/
theorem dvd_roundTrip {fine : Nat} (one_eq : one = 2 ^ (fine + 7)) :
    2 ^ (fine + 1) ∣ roundTrip quanta := by
  have large : 2 ^ (fine + 1 + 52) ≤ product quanta (magnitude 100) / 100 := by
    refine (Nat.le_div_iff_mul_le (by decide)).mpr (Nat.le_trans ?_ (le_product coarse))
    rw [one_eq, Nat.pow_add _ (fine + 1), Nat.pow_add _ fine, Nat.pow_add _ fine]
    omega
  rw [roundTrip, quotient_hundred, scaledHundredths_mul_one coarse]
  exact Nat.dvd_trans (dvd_spacing_of_le large) (spacing_dvd_round _ _)

/-- Beyond that range the round trip keeps the hundredths only if it keeps the number. -/
theorem scaledToWhole_roundTrip_eq_iff (onGrid : spacing quanta ∣ quanta) :
    scaledToWhole 2 (roundTrip quanta) = scaledToWhole 2 quanta ↔ roundTrip quanta = quanta := by
  obtain ⟨fine, one_eq⟩ := exists_fine
  have large : 2 ^ (fine + 1 + 52) ≤ quanta := by
    rw [one_eq, Nat.pow_add _ fine] at coarse
    rw [Nat.pow_add _ (fine + 1), Nat.pow_add _ fine]
    omega
  exact ⟨eq_of_scaledToWhole_eq one_eq (dvd_roundTrip coarse one_eq)
    (Nat.dvd_trans (dvd_spacing_of_le large) onGrid), congrArg (scaledToWhole 2)⟩

end Coarse

/-- Digits with zeros in front stand for the same number. -/
theorem ofDigitChars_leftpad (places number : Nat) :
    Nat.ofDigitChars 10 ((Nat.toDigits 10 number).leftpad places '0') 0 = number := by
  rw [List.leftpad, Nat.ofDigitChars_append, Nat.ofDigitChars_replicate_zero, Nat.mul_zero,
    Nat.ofDigitChars_ten_toDigits]

/-- Texts with a fixed count of decimal places are equal only if the decimals are. -/
theorem fixed_eq_iff (places : Nat) {negative : Bool} {left right : Nat} :
    (finite negative left).fixed places = (finite negative right).fixed places ↔
      scaledToWhole places left = scaledToWhole places right := by
  refine ⟨fun equal => ?_, fun equal => by rw [fixed, fixed, equal]⟩
  have noPoint (number : Nat) : '.' ∉ Nat.toDigits 10 number :=
    fun member => absurd (Nat.isDigit_of_mem_toDigits (by decide) (by decide) member) (by decide)
  have noPointPadded (number : Nat) : '.' ∉ (Nat.toDigits 10 number).leftpad places '0' := by
    intro member
    rcases List.mem_append.mp member with zeros | digits
    · cases List.eq_of_mem_replicate zeros
    · exact noPoint number digits
  rw [fixed, fixed, String.ofList_inj] at equal
  generalize scaledToWhole places left = before at equal ⊢
  generalize scaledToWhole places right = after at equal ⊢
  have unsigned :
      Nat.toDigits 10 (before / Nat.pow 10 places) ++
          '.' :: (Nat.toDigits 10 (before % Nat.pow 10 places)).leftpad places '0' =
        Nat.toDigits 10 (after / Nat.pow 10 places) ++
          '.' :: (Nat.toDigits 10 (after % Nat.pow 10 places)).leftpad places '0' := by
    cases negative with
    | false => exact equal
    | true => exact (List.cons.inj equal).2
  obtain ⟨wholes, -, fractions⟩ :=
    (List.append_cons_inj_of_notMem (noPoint _) (noPointPadded _)).mp unsigned
  have whole_eq := congrArg (Nat.ofDigitChars 10 · 0) wholes
  have fraction_eq := congrArg (Nat.ofDigitChars 10 · 0) fractions
  simp only [Nat.ofDigitChars_ten_toDigits, ofDigitChars_leftpad] at whole_eq fraction_eq
  rw [← Nat.div_add_mod before (Nat.pow 10 places), whole_eq, fraction_eq, Nat.div_add_mod]

end CallLedger.Binary64

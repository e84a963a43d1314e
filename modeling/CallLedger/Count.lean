/-!
# Saturating counts

Call counts and times are kept in 64 bits and stick at the largest value instead
of wrapping.  `Count.ofNat` is the clamp from the natural numbers; it turns
addition of naturals into addition of counts, so a total built up by any number
of saturating additions, in any order, is the clamp of the exact total.
-/

namespace CallLedger

/-- The largest count, `2 ^ 64 - 1`. -/
def Count.limit : Nat := 18446744073709551615

/-- A number of calls or an amount of time, at most `Count.limit`. -/
structure Count where
  value : Nat
  value_le : value ≤ Count.limit
  deriving DecidableEq

namespace Count

@[ext] theorem ext {left right : Count} (equal : left.value = right.value) :
    left = right := by
  cases left; cases right; cases equal; rfl

/-- Clamp a natural number to the representable range. -/
def ofNat (number : Nat) : Count :=
  ⟨min number limit, Nat.min_le_right ..⟩

/-- The count equal to a natural number, when there is one. -/
def ofNat? (number : Nat) : Option Count :=
  if inRange : number ≤ limit then some ⟨number, inRange⟩ else none

instance {number : Nat} : OfNat Count number := ⟨ofNat number⟩

instance : Inhabited Count := ⟨0⟩

/-- Addition that sticks at the limit. -/
protected def add (left right : Count) : Count :=
  ofNat (left.value + right.value)

instance : Add Count := ⟨Count.add⟩

/-- Subtraction that stops at zero. -/
protected def sub (left right : Count) : Count :=
  ⟨left.value - right.value, Nat.le_trans (Nat.sub_le ..) left.value_le⟩

instance : Sub Count := ⟨Count.sub⟩

instance : LE Count := ⟨fun left right => left.value ≤ right.value⟩

instance : LT Count := ⟨fun left right => left.value < right.value⟩

instance (left right : Count) : Decidable (left ≤ right) :=
  inferInstanceAs (Decidable (left.value ≤ right.value))

instance (left right : Count) : Decidable (left < right) :=
  inferInstanceAs (Decidable (left.value < right.value))

/-- Saturating total of a list. -/
def sum (counts : List Count) : Count :=
  counts.foldl (· + ·) 0

/-- Decimal digits of a count. -/
protected def toString (count : Count) : String :=
  toString count.value

instance : ToString Count := ⟨Count.toString⟩

@[simp] theorem value_ofNat (number : Nat) :
    (ofNat number).value = min number limit := rfl

@[simp] theorem value_zero : (0 : Count).value = 0 := rfl

@[simp] theorem value_one : (1 : Count).value = 1 := rfl

@[simp] theorem value_add (left right : Count) :
    (left + right).value = min (left.value + right.value) limit := rfl

@[simp] theorem value_sub (left right : Count) :
    (left - right).value = left.value - right.value := rfl

theorem le_iff {left right : Count} : left ≤ right ↔ left.value ≤ right.value :=
  Iff.rfl

theorem lt_iff {left right : Count} : left < right ↔ left.value < right.value :=
  Iff.rfl

/-- Clamping turns exact addition into saturating addition. -/
theorem ofNat_add (left right : Nat) :
    ofNat (left + right) = ofNat left + ofNat right := by
  ext
  simp only [value_ofNat, value_add]
  omega

@[simp] theorem ofNat_value (count : Count) : ofNat count.value = count := by
  ext
  exact Nat.min_eq_left count.value_le

protected theorem add_comm (left right : Count) : left + right = right + left := by
  ext
  simp [Nat.add_comm]

protected theorem add_assoc (first second third : Count) :
    first + second + third = first + (second + third) := by
  ext
  simp only [value_add]
  omega

@[simp] protected theorem add_zero (count : Count) : count + 0 = count := by
  ext
  exact Nat.min_eq_left count.value_le

@[simp] protected theorem zero_add (count : Count) : 0 + count = count := by
  rw [Count.add_comm, Count.add_zero]

end Count

end CallLedger

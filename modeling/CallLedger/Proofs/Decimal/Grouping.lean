import CallLedger.Proofs.Decimal.Reading

/-!
# Reading thousands groups

A grouped number is one to three digits and, behind them, groups of a comma and three digits.  The
number of digits tells where the commas stand, so commas that are deleted can be put back: each
number has one grouped text, and each grouped text is that of one number.
-/

namespace CallLedger.Decimal

/-- One to three decimal digits, then any number of groups of a comma and three digits. -/
inductive InGroups : List Char → Prop where
  | leading {digits : List Char} (nonempty : digits ≠ []) (short : digits.length ≤ 3)
      (decimal : ∀ digit ∈ digits, digit.isDigit = true) :
      InGroups digits
  | append {text digits : List Char} (earlier : InGroups text) (three : digits.length = 3)
      (decimal : ∀ digit ∈ digits, digit.isDigit = true) :
      InGroups (text ++ ',' :: digits)

/-- A text with its commas deleted. -/
def withoutCommas (text : List Char) : List Char :=
  text.filter (· ≠ ',')

/-- Digits in reading order with the commas that group them. -/
def withCommas (digits : List Char) : List Char :=
  (groupReversed digits.reverse).reverse

@[simp] theorem withoutCommas_append (first second : List Char) :
    withoutCommas (first ++ second) = withoutCommas first ++ withoutCommas second :=
  List.filter_append ..

@[simp] theorem withoutCommas_comma (text : List Char) :
    withoutCommas (',' :: text) = withoutCommas text :=
  List.filter_cons_of_neg (by decide)

theorem withoutCommas_of_isDigit {text : List Char}
    (decimal : ∀ digit ∈ text, digit.isDigit = true) : withoutCommas text = text := by
  apply List.filter_eq_self.mpr
  intro digit member
  have isDigit := decimal digit member
  rw [decide_eq_true_iff]
  rintro rfl
  cases isDigit

/-- Up to three digits stay together. -/
theorem withCommas_of_length_le {digits : List Char} (short : digits.length ≤ 3) :
    withCommas digits = digits := by
  have ungrouped : groupReversed digits.reverse = digits.reverse := by
    unfold groupReversed
    split
    next reversed =>
      have length_eq := congrArg List.length reversed
      simp only [List.length_reverse, List.length_cons] at length_eq
      omega
    next => rfl
  rw [withCommas, ungrouped, List.reverse_reverse]

/-- The last three of more digits are a group of their own. -/
theorem withCommas_append {digits group : List Char} (nonempty : digits ≠ [])
    (three : group.length = 3) :
    withCommas (digits ++ group) = withCommas digits ++ ',' :: group := by
  match group, three with
  | [third, second, first], _ =>
      cases reversed : digits.reverse with
      | nil => exact absurd (List.reverse_eq_nil_iff.mp reversed) nonempty
      | cons next rest => simp [withCommas, reversed, groupReversed]

/-- A text of digits is short, or it is another one with three digits behind it. -/
theorem groups_induction {motive : List Char → Prop}
    (short : ∀ digits, digits.length ≤ 3 → motive digits)
    (append : ∀ digits group, digits ≠ [] → group.length = 3 → motive digits →
      motive (digits ++ group))
    (digits : List Char) : motive digits := by
  -- Commas are put in from the last digit on, so the induction is on the reversed digits.
  suffices reversed : motive digits.reverse.reverse by rwa [List.reverse_reverse] at reversed
  induction digits.reverse using groupReversed.induct with
  | case1 first second third next rest ih =>
      have more : (next :: rest).reverse ≠ [] := by simp
      simpa using append _ [third, second, first] more rfl ih
  | case2 rest few =>
      apply short
      rw [List.length_reverse]
      match rest, few with
      | [], _ | [_], _ | [_, _], _ | [_, _, _], _ => simp
      | first :: second :: third :: next :: rest, few => exact (few _ _ _ _ _ rfl).elim

theorem inGroups_withCommas {digits : List Char} (nonempty : digits ≠ [])
    (decimal : ∀ digit ∈ digits, digit.isDigit = true) : InGroups (withCommas digits) := by
  induction digits using groups_induction with
  | short digits short =>
      rw [withCommas_of_length_le short]
      exact .leading nonempty short decimal
  | append digits group more three ih =>
      rw [List.forall_mem_append] at decimal
      rw [withCommas_append more three]
      exact .append (ih more decimal.1) three decimal.2

theorem withoutCommas_withCommas {digits : List Char}
    (decimal : ∀ digit ∈ digits, digit.isDigit = true) :
    withoutCommas (withCommas digits) = digits := by
  induction digits using groups_induction with
  | short digits short =>
      rw [withCommas_of_length_le short, withoutCommas_of_isDigit decimal]
  | append digits group more three ih =>
      rw [List.forall_mem_append] at decimal
      rw [withCommas_append more three, withoutCommas_append, withoutCommas_comma,
        ih decimal.1, withoutCommas_of_isDigit decimal.2]

namespace InGroups

theorem withoutCommas_ne_nil {text : List Char} (grouped : InGroups text) :
    withoutCommas text ≠ [] := by
  induction grouped with
  | leading nonempty _ decimal => rwa [withoutCommas_of_isDigit decimal]
  | append _ _ _ ih => simp [ih]

/-- Deleted commas can be put back. -/
theorem withCommas_withoutCommas {text : List Char} (grouped : InGroups text) :
    withCommas (withoutCommas text) = text := by
  induction grouped with
  | leading _ short decimal =>
      rw [withoutCommas_of_isDigit decimal, withCommas_of_length_le short]
  | append earlier three decimal ih =>
      rw [withoutCommas_append, withoutCommas_comma, withoutCommas_of_isDigit decimal,
        withCommas_append earlier.withoutCommas_ne_nil three, ih]

end InGroups

theorem toList_toString (count : Count) :
    (toString count).toList = Nat.toDigits 10 count.value :=
  Nat.toList_repr

theorem isDigit_of_mem_toString {count : Count} :
    ∀ digit ∈ (toString count).toList, digit.isDigit = true := by
  intro digit member
  rw [toList_toString] at member
  exact Nat.isDigit_of_mem_toDigits (by decide) (by decide) member

theorem toList_grouped (count : Count) :
    (grouped count).toList = withCommas (toString count).toList := by
  rw [toList_toString, grouped, String.toList_ofList]
  rfl

/-- A text in groups is told by its digits. -/
theorem eq_grouped_iff {text : List Char} {count : Count} :
    text = (grouped count).toList ↔
      InGroups text ∧ withoutCommas text = (toString count).toList := by
  rw [toList_grouped]
  constructor
  · rintro rfl
    have nonempty : (toString count).toList ≠ [] := by
      rw [toList_toString]
      exact Nat.toDigits_ne_nil
    exact ⟨inGroups_withCommas nonempty isDigit_of_mem_toString,
      withoutCommas_withCommas isDigit_of_mem_toString⟩
  · rintro ⟨inGroups, digits⟩
    rw [← digits, inGroups.withCommas_withoutCommas]

theorem readCount_grouped (count : Count) :
    readCount (withoutCommas (grouped count).toList) = .ok count := by
  rw [(eq_grouped_iff.mp rfl).2, toList_toString, readCount_eq_ok_iff]
  exact denotes_toDigits count.value

theorem grouped_eq_grouped_iff {first second : Count} :
    grouped first = grouped second ↔ first = second := by
  constructor
  · intro same
    have read := readCount_grouped first
    rw [same, readCount_grouped second] at read
    injection read with equal
    exact equal.symm
  · rintro rfl
    rfl

/-- **Thousands groups are exact.**  The shown text of a count is one to three digits and groups of
a comma and three digits.  Without the commas it is the decimal digits of the count, and no other
text in groups is.  So it is read as the count, and no other count has the same text. -/
theorem grouped_exact (count : Count) :
    (∀ text, text = (grouped count).toList ↔
      InGroups text ∧ withoutCommas text = (toString count).toList) ∧
      readCount (withoutCommas (grouped count).toList) = .ok count ∧
      ∀ other, grouped other = grouped count ↔ other = count := by
  refine ⟨?_, readCount_grouped count, ?_⟩
  · intro text
    exact eq_grouped_iff
  · intro other
    exact grouped_eq_grouped_iff

example : (["999", "1,000", "99,999", "100,000", "18,446,744,073,709,551,615"] : List String) =
    [999, 1000, 99999, 100000, 18446744073709551615].map grouped := by decide

end CallLedger.Decimal

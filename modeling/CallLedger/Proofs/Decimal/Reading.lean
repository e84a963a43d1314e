import CallLedger.Decimal
import Mathlib.Data.List.TakeWhile

/-!
# What is read as a count

A count is one or more decimal digits, with or without one plus sign before them.  The digits
are added up from left to right, so a number above the limit is noticed at the first digit that
is too much, and anything else at the first character that is no digit.  Which of the two comes
first is told by the digits a text begins with: either they are above the limit already, or
every digit before the first other character has been read.
-/

namespace CallLedger.Decimal

/-- Every fault has a wording of its own. -/
theorem CountFault.message_injective {first second : CountFault}
    (same : first.message = second.message) : first = second := by
  cases first <;> cases second <;> simp_all [message]

/-- Texts that are decimal digits, signed or not, with the number they stand for. -/
inductive Denotes : List Char → Nat → Prop where
  | plain {digits : List Char} (nonempty : digits ≠ [])
      (decimal : ∀ digit ∈ digits, digit.isDigit = true) :
      Denotes digits (Nat.ofDigitChars 10 digits 0)
  | signed {digits : List Char} (nonempty : digits ≠ [])
      (decimal : ∀ digit ∈ digits, digit.isDigit = true) :
      Denotes ('+' :: digits) (Nat.ofDigitChars 10 digits 0)

/-- A text without one plus sign at its beginning. -/
def unsigned : List Char → List Char
  | '+' :: text => text
  | text => text

/-- Whether a text is decimal digits, signed or not. -/
def isNumeral (text : List Char) : Bool :=
  !(unsigned text).isEmpty && (unsigned text).all Char.isDigit

/-- The number of the digits that a text begins with. -/
def leadingNumber (text : List Char) : Nat :=
  Nat.ofDigitChars 10 ((unsigned text).takeWhile Char.isDigit) 0

theorem unsigned_of_isDigit {text : List Char}
    (decimal : ∀ digit ∈ text, digit.isDigit = true) : unsigned text = text := by
  unfold unsigned
  split
  next rest => exact absurd (decimal '+' List.mem_cons_self) (by decide)
  next => rfl

theorem eq_or_eq_cons_unsigned (text : List Char) :
    text = unsigned text ∨ text = '+' :: unsigned text := by
  unfold unsigned
  split
  next => exact .inr rfl
  next => exact .inl rfl

theorem isNumeral_iff {text : List Char} :
    isNumeral text = true ↔
      unsigned text ≠ [] ∧ ∀ digit ∈ unsigned text, digit.isDigit = true := by
  rw [isNumeral, Bool.and_eq_true, Bool.not_eq_true', List.isEmpty_eq_false_iff, List.all_eq_true]

theorem denotes_iff {text : List Char} {number : Nat} :
    Denotes text number ↔
      isNumeral text = true ∧ number = Nat.ofDigitChars 10 (unsigned text) 0 := by
  rw [isNumeral_iff]
  constructor
  · intro denotes
    cases denotes with
    | plain nonempty decimal =>
        rw [unsigned_of_isDigit decimal]
        exact ⟨⟨nonempty, decimal⟩, rfl⟩
    | signed nonempty decimal => exact ⟨⟨nonempty, decimal⟩, rfl⟩
  · rintro ⟨⟨nonempty, decimal⟩, rfl⟩
    rcases eq_or_eq_cons_unsigned text with bare | marked
    · rw [bare, unsigned_of_isDigit decimal]
      exact .plain nonempty decimal
    · rw [marked]
      exact .signed nonempty decimal

theorem leadingNumber_of_denotes {text : List Char} {number : Nat}
    (denotes : Denotes text number) : leadingNumber text = number := by
  rcases denotes_iff.mp denotes with ⟨numeral, rfl⟩
  rw [leadingNumber, List.takeWhile_eq_self_iff.mpr (isNumeral_iff.mp numeral).2]

theorem le_ofDigitChars (digits : List Char) (value : Nat) :
    value ≤ Nat.ofDigitChars 10 digits value := by
  induction digits generalizing value with
  | nil => exact Nat.le_refl value
  | cons digit rest ih =>
      rw [Nat.ofDigitChars_cons]
      have grown := ih (10 * value + (digit.toNat - '0'.toNat))
      omega

/-- Digits are read up to the first one that is too much or the first other character. -/
theorem readDigits_eq {value : Nat} (within : value ≤ Count.limit) (text : List Char) :
    readDigits value text =
      if Count.limit < Nat.ofDigitChars 10 (text.takeWhile Char.isDigit) value then
        .error .tooLarge
      else if text.all Char.isDigit then
        .ok (Nat.ofDigitChars 10 text value)
      else
        .error .invalidDigit := by
  induction text generalizing value with
  | nil => simp [readDigits, within]
  | cons char rest ih =>
      rw [readDigits, digit?]
      by_cases isDigit : char.isDigit = true
      · simp only [isDigit, if_true, List.takeWhile_cons_of_pos, Nat.ofDigitChars_cons,
          List.all_cons, Bool.true_and, Nat.mul_comm value 10]
        split
        next inRange => exact ih inRange
        next above =>
          have larger := le_ofDigitChars (rest.takeWhile Char.isDigit)
            (10 * value + (char.toNat - '0'.toNat))
          rw [if_pos (Nat.lt_of_lt_of_le (Nat.lt_of_not_le above) larger)]
      · simp [isDigit, within]

/-- A sign is passed over, unless nothing follows it. -/
theorem readCount_eq_readDigits {text : List Char} (present : unsigned text ≠ []) :
    readCount text = (readDigits 0 (unsigned text)).map .ofNat := by
  unfold readCount
  split
  next => exact absurd rfl present
  next => rfl
  next _ unmarked =>
    rcases eq_or_eq_cons_unsigned text with bare | marked
    · rw [← bare]
    · cases digits : unsigned text with
      | nil => exact absurd digits present
      | cons digit rest =>
          rw [digits] at marked
          exact absurd marked (unmarked digit rest)

/-- Reading a text that is not empty, up to the digit or the character that decides. -/
theorem readCount_eq {text : List Char} (nonempty : text ≠ []) :
    readCount text =
      if Count.limit < leadingNumber text then
        .error .tooLarge
      else if isNumeral text then
        .ok (.ofNat (Nat.ofDigitChars 10 (unsigned text) 0))
      else
        .error .invalidDigit := by
  by_cases present : unsigned text = []
  · -- A sign alone is read as a character that is no digit.
    have lone : text = ['+'] := by
      have whole := eq_or_eq_cons_unsigned text
      rw [present] at whole
      exact whole.resolve_left nonempty
    subst lone
    decide
  · rw [readCount_eq_readDigits present, readDigits_eq (Nat.zero_le _), leadingNumber, isNumeral,
      List.isEmpty_eq_false_iff.mpr present, Bool.not_false, Bool.true_and]
    split
    next => rfl
    next => split <;> rfl

/-- **A count is read exactly if a text denotes one.** -/
theorem readCount_eq_ok_iff {text : List Char} {count : Count} :
    readCount text = .ok count ↔ Denotes text count.value := by
  by_cases empty : text = []
  · subst empty
    constructor
    · intro read
      cases read
    · intro denotes
      cases (denotes_iff.mp denotes).1
  rw [readCount_eq empty]
  constructor
  · intro read
    split at read
    next => cases read
    next within =>
      split at read
      next numeral =>
        cases read
        have denotes : Denotes text (Nat.ofDigitChars 10 (unsigned text) 0) :=
          denotes_iff.mpr ⟨numeral, rfl⟩
        rw [leadingNumber_of_denotes denotes] at within
        rwa [Count.value_ofNat, Nat.min_eq_left (Nat.le_of_not_lt within)]
      next => cases read
  · intro denotes
    rcases denotes_iff.mp denotes with ⟨numeral, value_eq⟩
    rw [leadingNumber_of_denotes denotes, if_neg (Nat.not_lt.mpr count.value_le),
      if_pos numeral, ← value_eq, Count.ofNat_value]

/-- **A text that denotes no count** is too large if the digits it begins with already are, and
has a character that is no digit otherwise. -/
theorem readCount_of_unreadable {text : List Char} (nonempty : text ≠ [])
    (unreadable : ∀ count : Count, ¬ Denotes text count.value) :
    readCount text =
      .error (if Count.limit < leadingNumber text then .tooLarge else .invalidDigit) := by
  have read := readCount_eq nonempty
  split at read
  next above => rw [read, if_pos above]
  next within =>
    rw [if_neg within]
    split at read
    next => exact absurd (readCount_eq_ok_iff.mp read) (unreadable _)
    next => exact read

-- The digit too many comes before the other character, or after it.
example : readCount "18446744073709551616x".toList = .error .tooLarge := by decide
example : readCount "1844674407370955161x6".toList = .error .invalidDigit := by decide

/-- Written digits denote the number they were written for. -/
theorem denotes_toDigits (number : Nat) : Denotes (Nat.toDigits 10 number) number := by
  have denotes : Denotes (Nat.toDigits 10 number)
      (Nat.ofDigitChars 10 (Nat.toDigits 10 number) 0) :=
    .plain Nat.toDigits_ne_nil fun _ member =>
      Nat.isDigit_of_mem_toDigits (by decide) (by decide) member
  rwa [Nat.ofDigitChars_ten_toDigits] at denotes

/-- The digits of a positive number do not start with a zero, whatever the base. -/
theorem toDigits_of_pos {base number : Nat} (many : 1 < base) (positive : 0 < number) :
    ∃ first rest, Nat.toDigits base number = first :: rest ∧ first ≠ '0' := by
  induction number using Nat.strongRecOn with
  | ind number ih =>
      rw [Nat.toDigits_eq_if many]
      split
      next small => exact ⟨number.digitChar, [], rfl, by simpa using positive.ne'⟩
      next large =>
        have less : number / base < number := Nat.div_lt_self positive many
        have quotient : 0 < number / base :=
          Nat.div_pos (Nat.le_of_not_lt large) (Nat.zero_lt_of_lt many)
        obtain ⟨first, rest, written, notZero⟩ := ih (number / base) less quotient
        exact ⟨first, rest ++ [(number % base).digitChar], by rw [written]; rfl, notZero⟩

theorem not_mem_toDigits {char : Char} (other : char.isDigit = false) (number : Nat) :
    char ∉ Nat.toDigits 10 number := by
  intro digit
  have isDigit : char.isDigit = true := Nat.isDigit_of_mem_toDigits (by decide) (by decide) digit
  rw [other] at isDigit
  cases isDigit

end CallLedger.Decimal

import CallLedger.Json
import CallLedger.Proofs.Decimal.Reading
import CallLedger.Proofs.Json.Reader
import Mathlib.Tactic.FieldSimp
import Mathlib.Tactic.Ring

/-!
# Numbers in JSON texts

Whole numbers are written in decimal digits, and other numbers as the shortest decimal in one of
four layouts.  Each of them is read as the number that the decimal stands for.
-/

namespace CallLedger

/-- The number that a decimal stands for. -/
def ScaledDecimal.value (decimal : ScaledDecimal) : ℚ :=
  decimal.digits * 10 ^ decimal.exponent

namespace Binary64

theorem digitsValue_eq (digits : List Char) :
    digitsValue digits = Nat.ofDigitChars 10 digits 0 := by
  simp only [digitsValue, Nat.ofDigitChars, Nat.mul_comm 10]

theorem digitsValue_toDigits (number : Nat) : digitsValue (Nat.toDigits 10 number) = number := by
  rw [digitsValue_eq, Nat.ofDigitChars_ten_toDigits]

theorem isDigit_of_mem {number : Nat} {char : Char} (member : char ∈ Nat.toDigits 10 number) :
    char.isDigit = true :=
  Nat.isDigit_of_mem_toDigits (by decide) (by decide) member

theorem readSign_of_digit {first : Char} (digit : first.isDigit = true) (rest : List Char) :
    readSign (first :: rest) = (false, first :: rest) := by
  unfold readSign
  split
  next same =>
    cases same
    cases digit
  next same =>
    cases same
    cases digit
  next => rfl

theorem readExponent?_digits {negative : Bool} {rest : List Char} {number : Nat}
    (signed : readSign rest = (negative, Nat.toDigits 10 number)) :
    readExponent? ('e' :: rest) =
      some (if negative then -(number : Int) else (number : Int)) := by
  have allDigits : (Nat.toDigits 10 number).all Char.isDigit = true :=
    List.all_eq_true.mpr fun _ member => isDigit_of_mem member
  rw [readExponent?, signed]
  simp [allDigits, Nat.toDigits_ne_nil, digitsValue_toDigits]

/-- A power of ten is read as it is written. -/
theorem readExponent?_toString (exponent : Int) :
    readExponent? ('e' :: (toString exponent).toList) = some exponent := by
  cases exponent with
  | ofNat number =>
      have written : (toString (Int.ofNat number)).toList = Nat.toDigits 10 number := by
        change (toString number).toList = _
        rw [Nat.toString_eq_ofList_toDigits, String.toList_ofList]
      have unsigned : readSign (Nat.toDigits 10 number) = (false, Nat.toDigits 10 number) := by
        have allDigits : ∀ char ∈ Nat.toDigits 10 number, char.isDigit = true :=
          fun _ => isDigit_of_mem
        cases digits : Nat.toDigits 10 number with
        | nil => exact absurd digits Nat.toDigits_ne_nil
        | cons first rest =>
            rw [digits] at allDigits
            exact readSign_of_digit (allDigits first List.mem_cons_self) rest
      rw [written]
      exact readExponent?_digits unsigned
  | negSucc number =>
      have written : (toString (Int.negSucc number)).toList =
          '-' :: Nat.toDigits 10 (number + 1) := by
        change ("-" ++ (number + 1).repr).toList = _
        rw [String.toList_append, Nat.repr_eq_ofList_toDigits]
        exact congrArg ('-' :: ·) String.toList_ofList
      have signed : readSign ('-' :: Nat.toDigits 10 (number + 1)) =
          (true, Nat.toDigits 10 (number + 1)) := rfl
      rw [written]
      exact readExponent?_digits signed

/-- Neighbours of a positive magnitude are no further apart than the magnitude is large. -/
theorem spacing_le {quanta : Nat} (positive : quanta ≠ 0) : spacing quanta ≤ quanta :=
  Nat.le_trans (Nat.pow_le_pow_right (by decide) (Nat.sub_le ..)) (Nat.log2_self_le positive)

/-- Zero does not read back as anything else. -/
theorem readsBack_zero {quanta : Nat} (positive : quanta ≠ 0) (exponent : Int) :
    readsBack quanta ⟨0, exponent⟩ = false := by
  have unit_le := spacing_le positive
  have above : ¬ (4 * quanta - if quanta / spacing quanta = Nat.pow 2 52 ∧ 1 < spacing quanta then
      spacing quanta else 2 * spacing quanta) ≤ 0 := by
    split <;> omega
  cases exponent with
  | ofNat power =>
      simp only [readsBack, Nat.mul_zero, Nat.zero_mul, Nat.mul_one, Nat.not_lt_zero,
        decide_false, Bool.false_and, ite_self, above]
  | negSucc power =>
      have scaled_above := Nat.not_le_of_lt (Nat.mul_pos (Nat.lt_of_not_le above)
        (show 0 < Nat.pow 10 (power + 1) from Nat.pow_pos (by decide)))
      simp only [readsBack, Nat.mul_zero, Nat.zero_mul, Nat.not_lt_zero, decide_false,
        Bool.false_and, ite_self, scaled_above]

/-- Dropping zeros at the end does not make zero of anything else. -/
theorem digits_dropZeros {decimal : ScaledDecimal} (nonzero : decimal.digits ≠ 0) (fuel : Nat) :
    (dropZeros fuel decimal).digits ≠ 0 := by
  induction fuel generalizing decimal with
  | zero => exact nonzero
  | succ fuel ih =>
      rw [dropZeros]
      split
      next =>
        refine ih (Nat.ne_of_gt ?_)
        change 0 < decimal.digits / 10
        omega
      next => exact nonzero

/-- A decimal that is found reads back. -/
theorem readsBack_of_candidate? {tie : Tie} {quanta : Nat} {exponent : Int}
    {decimal : ScaledDecimal} (found : candidate? tie quanta exponent = some decimal) :
    readsBack quanta decimal = true :=
  List.find?_some found

/-- The shortest decimal of a positive magnitude is not zero, if there is one. -/
theorem digits_shortest (tie : Tie) {quanta : Nat} (positive : quanta ≠ 0) :
    (shortest tie quanta).digits ≠ 0 ∨ shortest tie quanta = dropZeros 17 ⟨0, 0⟩ := by
  simp only [shortest]
  generalize search : List.findSome? _ _ = found
  cases found with
  | none => exact .inr rfl
  | some decimal =>
      obtain ⟨length, _, candidate⟩ := List.exists_of_findSome?_eq_some search
      refine .inl (digits_dropZeros ?_ 17)
      rcases decimal with ⟨digits, exponent⟩
      rintro rfl
      have back := readsBack_of_candidate? candidate
      rw [readsBack_zero positive] at back
      cases back

/-- The four layouts of a decimal in a document. -/
theorem layOut_document {decimal : ScaledDecimal} {digits : List Char} {place : Int}
    (written : Nat.toDigits 10 decimal.digits = digits)
    (placed : decimal.exponent + digits.length = place) :
    layOut .document decimal =
      if -4 ≤ place ∧ place ≤ 16 then
        if place ≤ 0 then
          ['0'] ++ '.' :: (List.replicate place.natAbs '0' ++ digits)
        else if digits.length ≤ place.natAbs then
          (digits ++ List.replicate (place.natAbs - digits.length) '0') ++ ['.', '0']
        else
          digits.take place.natAbs ++ '.' :: digits.drop place.natAbs
      else
        digits.take 1 ++ (if digits.tail.isEmpty then [] else '.' :: digits.tail) ++
          'e' :: (toString (place - 1)).toList := by
  simp only [layOut, written, placed, DecimalStyle.document]
  by_cases positional : -4 ≤ place ∧ place ≤ 16
  · simp [positional]
  · rw [if_neg positional, if_pos]
    rw [Bool.not_eq_true', Bool.eq_false_iff]
    simpa using positional

end Binary64

namespace Json

/-- What may follow the digits of a number: nothing or a letter. -/
def EndsDigits (tail : List Char) : Prop :=
  ∀ char ∈ tail.head?, char.isDigit = false

theorem endsDigits_nil : EndsDigits [] :=
  nofun

theorem takeWhile_digits {digits tail : List Char}
    (allDigits : ∀ char ∈ digits, char.isDigit = true) (ends : EndsDigits tail) :
    (digits ++ tail).takeWhile Char.isDigit = digits := by
  rw [List.takeWhile_append_of_pos allDigits]
  cases tail with
  | nil => simp
  | cons first rest =>
      have stops : first.isDigit = false := ends first rfl
      simp [stops]

theorem dropWhile_digits {digits tail : List Char}
    (allDigits : ∀ char ∈ digits, char.isDigit = true) (ends : EndsDigits tail) :
    (digits ++ tail).dropWhile Char.isDigit = tail := by
  rw [List.dropWhile_append_of_pos allDigits]
  cases tail with
  | nil => rfl
  | cons first rest =>
      have stops : first.isDigit = false := ends first rfl
      simp [stops]

section Layout

variable {whole fraction tail : List Char} {exponent : Int}

/-- A number without a decimal point. -/
theorem readMagnitude?_whole (wholeDigits : ∀ char ∈ whole, char.isDigit = true)
    (isWhole : isWholePart whole = true) (ends : EndsDigits tail) (pointless : '.' ∉ tail.head?)
    (scale : Binary64.readExponent? tail = some exponent) :
    readMagnitude? (whole ++ tail) = some (decimalValue whole exponent) := by
  rw [readMagnitude?, takeWhile_digits wholeDigits ends, dropWhile_digits wholeDigits ends,
    if_pos isWhole]
  split
  next => exact absurd rfl pointless
  next => rw [scale, Option.map_some]

/-- A number with a decimal point. -/
theorem readMagnitude?_point (wholeDigits : ∀ char ∈ whole, char.isDigit = true)
    (isWhole : isWholePart whole = true) (fractionDigits : ∀ char ∈ fraction, char.isDigit = true)
    (filled : fraction ≠ []) (ends : EndsDigits tail)
    (scale : Binary64.readExponent? tail = some exponent) :
    readMagnitude? (whole ++ '.' :: (fraction ++ tail)) =
      some (decimalValue (whole ++ fraction) (exponent - fraction.length)) := by
  have pointEnds : EndsDigits ('.' :: (fraction ++ tail)) := by
    rintro _ ⟨⟩
    rfl
  rw [readMagnitude?, takeWhile_digits wholeDigits pointEnds,
    dropWhile_digits wholeDigits pointEnds, if_pos isWhole]
  simp only [takeWhile_digits fractionDigits ends, dropWhile_digits fractionDigits ends]
  rw [if_neg (by simpa using filled), scale, Option.map_some]

/-- A number with a decimal point and no power of ten. -/
theorem readMagnitude?_fraction (wholeDigits : ∀ char ∈ whole, char.isDigit = true)
    (isWhole : isWholePart whole = true) (fractionDigits : ∀ char ∈ fraction, char.isDigit = true)
    (filled : fraction ≠ []) :
    readMagnitude? (whole ++ '.' :: fraction) =
      some (decimalValue (whole ++ fraction) (-fraction.length)) := by
  have unscaled : Binary64.readExponent? [] = some 0 := rfl
  have read := readMagnitude?_point wholeDigits isWhole fractionDigits filled endsDigits_nil
    unscaled
  rwa [List.append_nil, zero_sub] at read

end Layout

theorem isDigit_of_mem_zero : ∀ char ∈ ['0'], char.isDigit = true :=
  List.forall_mem_singleton.mpr rfl

theorem isDigit_of_mem_zeros {count : Nat} :
    ∀ char ∈ List.replicate count '0', char.isDigit = true := by
  intro char member
  rw [List.eq_of_mem_replicate member]
  rfl

/-- Reading the digits of a whole number gives the number back. -/
theorem readMagnitude?_toDigits (number : Nat) :
    readMagnitude? (Nat.toDigits 10 number) = some (number : ℚ) := by
  have isWhole : isWholePart (Nat.toDigits 10 number) = true := by
    rcases Nat.eq_zero_or_pos number with rfl | positive
    · rfl
    · obtain ⟨first, rest, written, notZero⟩ :=
        Decimal.toDigits_of_pos (by decide : 1 < 10) positive
      simp [written, isWholePart, notZero]
  have unscaled : Binary64.readExponent? [] = some 0 := rfl
  have read := readMagnitude?_whole (fun _ => Binary64.isDigit_of_mem) isWhole endsDigits_nil nofun
    unscaled
  rw [List.append_nil] at read
  rw [read, decimalValue, Nat.ofDigitChars_ten_toDigits, zpow_zero, mul_one]

section Digits

variable {first : Char} {rest : List Char} (digits : ∀ char ∈ first :: rest, char.isDigit = true)

include digits

/-- Zeros between the decimal point and the digits. -/
theorem readMagnitude?_zeros_before (count : Nat) :
    readMagnitude? (['0'] ++ '.' :: (List.replicate count '0' ++ first :: rest)) =
      some (decimalValue (first :: rest) (-(count + (first :: rest).length))) := by
  have value_eq : Nat.ofDigitChars 10 (['0'] ++ (List.replicate count '0' ++ first :: rest)) 0 =
      Nat.ofDigitChars 10 (first :: rest) 0 := by
    rw [Nat.ofDigitChars_append, Nat.ofDigitChars_append]
    congr 1
    exact Nat.ofDigitChars_replicate_zero
  rw [readMagnitude?_fraction isDigit_of_mem_zero rfl
    (List.forall_mem_append.mpr ⟨isDigit_of_mem_zeros, digits⟩) (by simp), decimalValue, value_eq,
    List.length_append, List.length_replicate, Nat.cast_add]
  rfl

/-- Zeros between the digits and the decimal point. -/
theorem readMagnitude?_zeros_after (notZero : first ≠ '0') (count : Nat) :
    readMagnitude? ((first :: rest ++ List.replicate count '0') ++ '.' :: ['0']) =
      some (decimalValue (first :: rest) count) := by
  have value_eq : Nat.ofDigitChars 10 (first :: rest ++ List.replicate count '0' ++ ['0']) 0 =
      10 ^ count * Nat.ofDigitChars 10 (first :: rest) 0 * 10 := by
    rw [Nat.ofDigitChars_append, Nat.ofDigitChars_append, Nat.ofDigitChars_replicate_zero,
      Nat.ofDigitChars_cons, Nat.ofDigitChars_nil, Nat.mul_comm 10]
    rfl
  rw [readMagnitude?_fraction (List.forall_mem_append.mpr ⟨digits, isDigit_of_mem_zeros⟩)
    (by simp [isWholePart, notZero]) isDigit_of_mem_zero (List.cons_ne_nil _ _), decimalValue,
    value_eq, decimalValue, zpow_natCast]
  push_cast
  congr 1
  rw [List.length_singleton, Nat.cast_one, zpow_neg_one]
  field_simp

/-- The decimal point between two digits. -/
theorem readMagnitude?_point_between (notZero : first ≠ '0') {place : Nat} (positive : 0 < place)
    (inside : place < (first :: rest).length) :
    readMagnitude? ((first :: rest).take place ++ '.' :: (first :: rest).drop place) =
      some (decimalValue (first :: rest) (place - (first :: rest).length)) := by
  have isWhole : isWholePart ((first :: rest).take place) = true := by
    rw [← Nat.sub_add_cancel positive]
    simp [isWholePart, notZero]
  have filled : (first :: rest).drop place ≠ [] := by
    rw [Ne, List.drop_eq_nil_iff]
    exact Nat.not_le_of_lt inside
  rw [readMagnitude?_fraction (fun _ member => digits _ (List.mem_of_mem_take member)) isWhole
    (fun _ member => digits _ (List.mem_of_mem_drop member)) filled, List.take_append_drop,
    List.length_drop, Nat.cast_sub inside.le, neg_sub]

/-- A power of ten behind the digits. -/
theorem readMagnitude?_power (exponent : Int) :
    readMagnitude? ([first] ++ (if rest.isEmpty then [] else '.' :: rest) ++
        'e' :: (toString exponent).toList) =
      some (decimalValue (first :: rest) (exponent - rest.length)) := by
  have scale := Binary64.readExponent?_toString exponent
  have ends : EndsDigits ('e' :: (toString exponent).toList) := by
    rintro _ ⟨⟩
    rfl
  cases rest with
  | nil =>
      have read := readMagnitude?_whole digits (by simp [isWholePart]) ends nofun scale
      rw [List.length_nil, Nat.cast_zero, sub_zero]
      exact read
  | cons second others =>
      have firstDigit : ∀ char ∈ [first], char.isDigit = true :=
        fun _ member => digits _ (List.mem_cons.mpr (.inl (List.mem_singleton.mp member)))
      have read := readMagnitude?_point firstDigit (by simp [isWholePart])
        (fun _ member => digits _ (List.mem_cons_of_mem first member))
        (List.cons_ne_nil second others) ends scale
      rw [List.append_assoc]
      exact read

end Digits

/-- However a decimal is laid out, it is read as the number that it stands for. -/
theorem readMagnitude?_layOut {decimal : ScaledDecimal} (nonzero : decimal.digits ≠ 0) :
    readMagnitude? (Binary64.layOut .document decimal) = some decimal.value := by
  obtain ⟨first, rest, written, notZero⟩ :=
    Decimal.toDigits_of_pos (by decide : 1 < 10) (Nat.pos_of_ne_zero nonzero)
  have digits : ∀ char ∈ first :: rest, char.isDigit = true := by
    rw [← written]
    exact fun _ => Binary64.isDigit_of_mem
  obtain ⟨place, placed⟩ : ∃ place, decimal.exponent + (first :: rest).length = place := ⟨_, rfl⟩
  have value_eq : ∀ exponent, exponent = decimal.exponent →
      decimalValue (first :: rest) exponent = decimal.value := by
    rintro _ rfl
    rw [decimalValue, ScaledDecimal.value, ← written, Nat.ofDigitChars_ten_toDigits]
  rw [Binary64.layOut_document written placed]
  split
  next =>
    split
    next small =>
      rw [readMagnitude?_zeros_before digits, value_eq _ (by omega)]
    next large =>
      split
      next => rw [readMagnitude?_zeros_after digits notZero, value_eq _ (by omega)]
      next short =>
        rw [readMagnitude?_point_between digits notZero (by omega) (by omega),
          value_eq _ (by omega)]
  next =>
    refine (readMagnitude?_power digits (place - 1)).trans ?_
    rw [List.length_cons] at placed
    rw [value_eq _ (by omega)]

/-- The number that a document shows for a magnitude. -/
def shownValue (quanta : Nat) : ℚ :=
  if quanta = 0 then 0 else (Binary64.shortest .toEven quanta).value

/-- What a document says of a number, which is nothing if the number is not finite. -/
def numberValue : Binary64 → JsonValue
  | .finite negative quanta => .number (if negative then -shownValue quanta else shownValue quanta)
  | _ => .null

theorem readMagnitude?_shortest {quanta : Nat} (positive : quanta ≠ 0) :
    readMagnitude? (Binary64.layOut .document (Binary64.shortest .toEven quanta)) =
      some (Binary64.shortest .toEven quanta).value := by
  rcases Binary64.digits_shortest .toEven positive with nonzero | zero
  · exact readMagnitude?_layOut nonzero
  · have none : Binary64.dropZeros 17 ⟨0, 0⟩ = ⟨0, 17⟩ := by decide
    have laid_out : Binary64.layOut .document ⟨0, 17⟩ =
        ['0'] ++ (if List.isEmpty [] then [] else '.' :: []) ++
          'e' :: (toString (17 : Int)).toList :=
      Binary64.layOut_document rfl rfl
    have zero_eq : Nat.ofDigitChars 10 ['0'] 0 = 0 := rfl
    rw [zero, none, laid_out, readMagnitude?_power isDigit_of_mem_zero 17, decimalValue,
      ScaledDecimal.value, zero_eq, Nat.cast_zero, zero_mul, zero_mul]

/-- A number that can be read without a sign starts with a digit. -/
theorem readNumber?_of_magnitude {word : List Char} {value : ℚ}
    (read : readMagnitude? word = some value) : readNumber? word = some value := by
  unfold readNumber?
  split
  next rest => cases read
  next => exact read

/-- None of the three names is a number. -/
theorem readWord?_of_number {word : List Char} {value : ℚ}
    (read : readNumber? word = some value) : readWord? word = some (.number value) := by
  have notName : ∀ name : String, readNumber? name.toList = none → word ≠ name.toList := by
    rintro name unread rfl
    rw [unread] at read
    cases read
  rw [readWord?, if_neg (notName "null" rfl), if_neg (notName "true" rfl),
    if_neg (notName "false" rfl), read, Option.map_some]

theorem readWord?_toDigits (number : Nat) :
    readWord? (Nat.toDigits 10 number) = some (.number number) :=
  readWord?_of_number (readNumber?_of_magnitude (readMagnitude?_toDigits number))

/-- A number is read as what a document says of it. -/
theorem readWord?_numberText (number : Binary64) :
    readWord? (numberText number) = some (numberValue number) := by
  cases number with
  | nan negative => rfl
  | infinity negative => rfl
  | finite negative quanta =>
      have read : readMagnitude? (if quanta = 0 then ['0', '.', '0']
          else Binary64.layOut .document (Binary64.shortest .toEven quanta)) =
            some (shownValue quanta) := by
        rw [shownValue]
        split
        next =>
          have zero_eq : Nat.ofDigitChars 10 ['0', '0'] 0 = 0 := rfl
          have read : readMagnitude? (['0'] ++ '.' :: ['0']) =
              some (decimalValue (['0'] ++ ['0']) (-List.length ['0'])) :=
            readMagnitude?_fraction isDigit_of_mem_zero rfl isDigit_of_mem_zero
              (List.cons_ne_nil '0' [])
          refine read.trans ?_
          rw [decimalValue, List.singleton_append, zero_eq, Nat.cast_zero, zero_mul]
        next positive => exact readMagnitude?_shortest positive
      rw [numberText, Binary64.text, String.toList_ofList, numberValue]
      refine readWord?_of_number ?_
      cases negative with
      | false => exact readNumber?_of_magnitude read
      | true => exact congrArg (Option.map (- ·)) read

theorem isDelimiter_of_isDigit {char : Char} (digit : char.isDigit = true) :
    isDelimiter char = false := by
  have notBlank : isBlank char = false := by
    rw [Bool.eq_false_iff]
    intro blank
    simp only [isBlank, Bool.or_eq_true, decide_eq_true_eq] at blank
    rcases blank with ((rfl | rfl) | rfl) | rfl <;> cases digit
  have notMark : mark? char = none := by
    unfold mark?
    split <;> first | rfl | cases digit
  have notQuote : char ≠ '"' := by
    rintro rfl
    cases digit
  simp [isDelimiter, notBlank, notMark, notQuote]

/-- Characters of a sign and of what follows it. -/
theorem mem_readSign {char : Char} {rest : List Char} (member : char ∈ rest) :
    char = '-' ∨ char = '+' ∨ char ∈ (Binary64.readSign rest).2 := by
  unfold Binary64.readSign
  split
  next => exact (List.mem_cons.mp member).imp_right .inr
  next => exact .inr (List.mem_cons.mp member)
  next => exact .inr (.inr member)

theorem isDelimiter_of_readExponent? {tail : List Char} {exponent : Int}
    (read : Binary64.readExponent? tail = some exponent) :
    ∀ char ∈ tail, isDelimiter char = false := by
  cases tail with
  | nil => simp
  | cons mark rest =>
      simp only [Binary64.readExponent?, Option.ite_none_right_eq_some, Bool.and_eq_true,
        Bool.or_eq_true, beq_iff_eq, List.all_eq_true] at read
      obtain ⟨⟨⟨letter, _⟩, digits⟩, _⟩ := read
      intro char member
      rcases List.mem_cons.mp member with rfl | inRest
      · rcases letter with rfl | rfl <;> rfl
      · rcases mem_readSign inRest with rfl | rfl | inDigits
        · rfl
        · rfl
        · exact isDelimiter_of_isDigit (digits char inDigits)

theorem isDelimiter_of_takeWhile (word : List Char) :
    ∀ char ∈ word.takeWhile Char.isDigit, isDelimiter char = false :=
  fun char member => isDelimiter_of_isDigit (List.all_eq_true.mp List.all_takeWhile char member)

theorem isDelimiter_of_readMagnitude? {word : List Char} {value : ℚ}
    (read : readMagnitude? word = some value) : ∀ char ∈ word, isDelimiter char = false := by
  rw [← List.takeWhile_append_dropWhile (p := Char.isDigit) (l := word)]
  refine List.forall_mem_append.mpr ⟨isDelimiter_of_takeWhile word, ?_⟩
  simp only [readMagnitude?, Option.ite_none_right_eq_some] at read
  have behind := read.2
  split at behind
  next rest cut =>
    simp only [Option.ite_none_left_eq_some] at behind
    obtain ⟨exponent, scale, _⟩ := Option.map_eq_some_iff.mp behind.2
    rw [cut, ← List.takeWhile_append_dropWhile (p := Char.isDigit) (l := rest)]
    exact List.forall_mem_cons.mpr ⟨rfl, List.forall_mem_append.mpr
      ⟨isDelimiter_of_takeWhile rest, isDelimiter_of_readExponent? scale⟩⟩
  next =>
    obtain ⟨exponent, scale, _⟩ := Option.map_eq_some_iff.mp behind
    exact isDelimiter_of_readExponent? scale

/-- Nothing that ends a word stands in a number. -/
theorem isDelimiter_of_readNumber? {word : List Char} {value : ℚ}
    (read : readNumber? word = some value) : ∀ char ∈ word, isDelimiter char = false := by
  unfold readNumber? at read
  split at read
  next rest =>
    obtain ⟨magnitude, readRest, _⟩ := Option.map_eq_some_iff.mp read
    exact List.forall_mem_cons.mpr ⟨rfl, isDelimiter_of_readMagnitude? readRest⟩
  next => exact isDelimiter_of_readMagnitude? read

theorem isDelimiter_of_all {word : List Char} (inside : word.all (!isDelimiter ·) = true) :
    ∀ char ∈ word, isDelimiter char = false := by
  simpa using inside

/-- Nothing that ends a word stands in a word. -/
theorem isDelimiter_of_readWord? {word : List Char} {value : JsonValue}
    (read : readWord? word = some value) : ∀ char ∈ word, isDelimiter char = false := by
  unfold readWord? at read
  split at read
  next name =>
    rw [name]
    exact isDelimiter_of_all rfl
  next =>
    split at read
    next name =>
      rw [name]
      exact isDelimiter_of_all rfl
    next =>
      split at read
      next name =>
        rw [name]
        exact isDelimiter_of_all rfl
      next =>
        obtain ⟨number, readNumber, _⟩ := Option.map_eq_some_iff.mp read
        exact isDelimiter_of_readNumber? readNumber

end Json

end CallLedger

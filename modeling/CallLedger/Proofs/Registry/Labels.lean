import CallLedger.Proofs.Decimal.Reading
import CallLedger.Proofs.Report.Sections
import Mathlib.Data.List.Induction

/-!
# Labels tell blocks apart

A label is a name and, in brackets, the digits of an identifier.  Names are arbitrary and may end
like a label themselves, but digits hold no bracket, so the last opening bracket of a label is the
one behind the name.  Digits are padded to four and no further, so an identifier is spelled in one
way only.
-/

namespace CallLedger

namespace BlockId

/-- Lower-case hexadecimal digits. -/
def isHexDigit (char : Char) : Bool :=
  char.isDigit || (decide ('a' ≤ char) && decide (char ≤ 'f'))

/-- Digits that spell an identifier.  There are at least four of them, and more than four do not
start with a zero. -/
structure Spells (id : BlockId) (digits : List Char) : Prop where
  hexadecimal : ∀ digit ∈ digits, isHexDigit digit = true
  wide : 4 ≤ digits.length
  padded : 4 < digits.length → digits.head? ≠ some '0'
  value_eq : hexValue digits = id.index

theorem spells_iff_conditions {id : BlockId} {digits : List Char} :
    Spells id digits ↔ digits.all isHexDigit = true ∧ 4 ≤ digits.length ∧
      (4 < digits.length → digits.head? ≠ some '0') ∧ hexValue digits = id.index := by
  rw [List.all_eq_true]
  constructor
  · intro spells
    exact ⟨spells.hexadecimal, spells.wide, spells.padded, spells.value_eq⟩
  · rintro ⟨hexadecimal, wide, padded, value_eq⟩
    exact ⟨hexadecimal, wide, padded, value_eq⟩

-- `List.all` looks at the given digits only, where deciding the field itself may go through all
-- characters there are.
instance (id : BlockId) (digits : List Char) : Decidable (Spells id digits) :=
  decidable_of_iff _ spells_iff_conditions.symm

theorem isHexDigit_iff {char : Char} :
    isHexDigit char = true ↔ ∃ digit < 16, char = Nat.digitChar digit := by
  constructor
  · intro hexadecimal
    simp only [isHexDigit, Bool.or_eq_true, Bool.and_eq_true, decide_eq_true_iff] at hexadecimal
    rcases hexadecimal with decimal | ⟨lower, upper⟩
    · have range : 48 ≤ char.toNat ∧ char.toNat ≤ 57 := Char.isDigit_iff_toNat.mp decimal
      refine ⟨char.toNat - 48, by omega, ?_⟩
      apply Char.toNat_inj.mp
      rw [Nat.toNat_digitChar_of_lt_ten (by omega)]
      omega
    · have least : 97 ≤ char.toNat := lower
      have most : char.toNat ≤ 102 := upper
      refine ⟨char.toNat - 87, by omega, ?_⟩
      rw [← Char.ofNat_toNat char]
      generalize char.toNat = code at least most
      interval_cases code <;> rfl
  · rintro ⟨digit, small, rfl⟩
    interval_cases digit <;> rfl

theorem digitChar_digitValue {char : Char} (hexadecimal : isHexDigit char = true) :
    (digitValue char).digitChar = char := by
  rcases isHexDigit_iff.mp hexadecimal with ⟨digit, small, rfl⟩
  rw [digitValue_digitChar small]

theorem digitValue_lt {char : Char} (hexadecimal : isHexDigit char = true) :
    digitValue char < 16 := by
  rcases isHexDigit_iff.mp hexadecimal with ⟨digit, small, rfl⟩
  rwa [digitValue_digitChar small]

theorem digitValue_pos {char : Char} (hexadecimal : isHexDigit char = true)
    (notZero : char ≠ '0') : 0 < digitValue char := by
  apply Nat.pos_of_ne_zero
  intro zero
  apply notZero
  rw [← digitChar_digitValue hexadecimal, zero]
  rfl

section Significant

variable {first : Char} {rest : List Char}
  (hexadecimal : ∀ digit ∈ first :: rest, isHexDigit digit = true) (notZero : first ≠ '0')

include hexadecimal notZero

theorem hexValue_pos : 0 < hexValue (first :: rest) := by
  induction rest using List.reverseRecOn with
  | nil => simpa [hexValue] using digitValue_pos (hexadecimal first List.mem_cons_self) notZero
  | append_singleton rest last ih =>
      rw [← List.cons_append] at hexadecimal ⊢
      rw [List.forall_mem_append] at hexadecimal
      have positive := ih hexadecimal.1
      rw [hexValue_concat]
      omega

/-- Digits without a zero in front are those of their value. -/
theorem toDigits_hexValue : Nat.toDigits 16 (hexValue (first :: rest)) = first :: rest := by
  induction rest using List.reverseRecOn with
  | nil =>
      have only := hexadecimal first List.mem_cons_self
      have value_eq : hexValue [first] = digitValue first := by simp [hexValue]
      rw [value_eq, Nat.toDigits_of_lt_base (digitValue_lt only), digitChar_digitValue only]
  | append_singleton rest last ih =>
      rw [← List.cons_append] at hexadecimal ⊢
      rw [List.forall_mem_append] at hexadecimal
      have lowest := hexadecimal.2 last (List.mem_singleton_self last)
      have written := Nat.toDigits_append_toDigits (by decide)
        (hexValue_pos hexadecimal.1 notZero) (digitValue_lt lowest)
      rw [hexValue_concat, Nat.mul_comm, ← written, ih hexadecimal.1,
        Nat.toDigits_of_lt_base (digitValue_lt lowest), digitChar_digitValue lowest]

end Significant

/-- Digits are zeros and, behind them, the digits that count. -/
theorem exists_zeros (digits : List Char) :
    ∃ count rest, digits = List.replicate count '0' ++ rest ∧ rest.head? ≠ some '0' := by
  induction digits with
  | nil => exact ⟨0, [], rfl, nofun⟩
  | cons digit digits ih =>
      by_cases zero : digit = '0'
      · rcases ih with ⟨count, rest, split, significant⟩
        refine ⟨count + 1, rest, ?_, significant⟩
        rw [zero, split]
        rfl
      · refine ⟨0, digit :: digits, rfl, ?_⟩
        simpa using zero

theorem Spells.eq_hex {digits : List Char} {id : BlockId} (spells : Spells id digits) :
    digits = id.hex := by
  rcases exists_zeros digits with ⟨count, rest, rfl, significant⟩
  have count_eq : count = 4 - rest.length := by
    have wide := spells.wide
    rw [List.length_append, List.length_replicate] at wide
    cases count with
    | zero => omega
    | succ count =>
        have short : ¬ 4 < (List.replicate (count + 1) '0' ++ rest).length :=
          fun long => spells.padded long rfl
        rw [List.length_append, List.length_replicate] at short
        omega
  have index_eq := spells.value_eq
  rw [hexValue_replicate_append] at index_eq
  rw [hex, ← index_eq, count_eq]
  cases rest with
  | nil => rfl
  | cons first rest =>
      have hexadecimal := (List.forall_mem_append.mp spells.hexadecimal).2
      have notZero : first ≠ '0' := fun zero => significant (congrArg some zero)
      rw [toDigits_hexValue hexadecimal notZero]
      rfl

theorem spells_hex (id : BlockId) : Spells id id.hex where
  hexadecimal := by
    intro digit member
    rw [hex, List.leftpad, List.mem_append, List.mem_replicate] at member
    rcases member with ⟨_, rfl⟩ | written
    · rfl
    · exact isHexDigit_iff.mpr (mem_toDigits written)
  wide := by
    rw [hex, List.length_leftpad]
    exact Nat.le_max_left ..
  padded := by
    intro long
    rw [hex, List.length_leftpad] at long
    have unpadded : 4 - (Nat.toDigits 16 id.index).length = 0 := by omega
    have positive : 0 < id.index := by
      apply Nat.pos_of_ne_zero
      intro zero
      rw [zero] at long
      exact absurd long (by decide)
    obtain ⟨first, rest, written, notZero⟩ := Decimal.toDigits_of_pos (by decide : 1 < 16) positive
    rw [hex, List.leftpad, unpadded, written]
    simpa using notZero
  value_eq := hexValue_hex id

/-- An identifier is spelled in one way. -/
theorem spells_iff {digits : List Char} {id : BlockId} : Spells id digits ↔ digits = id.hex := by
  constructor
  · exact Spells.eq_hex
  · rintro rfl
    exact spells_hex id

example : (["0000", "001a", "ffff", "10000", "123456"] : List String) =
    [0, 26, 65535, 65536, 1193046].map fun index => String.ofList (hex ⟨index⟩) := by decide

/-- A label is a name with a spelled identifier in brackets. -/
theorem eq_label_iff {text name : String} {id : BlockId} :
    text = id.label name ↔
      ∃ digits, Spells id digits ∧ text = name ++ "[" ++ String.ofList digits ++ "]" := by
  simp only [spells_iff, exists_eq_left]
  rfl

/-- Name and identifier of a label, if a text is one.  The name ends at the last opening bracket,
and the digits behind it reach up to the closing bracket at the end. -/
def readLabel? (text : String) : Option (String × BlockId) :=
  match text.toList.reverse with
  | ']' :: reversed =>
      match reversed.dropWhile (· ≠ '[') with
      | '[' :: name =>
          let digits := (reversed.takeWhile (· ≠ '[')).reverse
          if Spells ⟨hexValue digits⟩ digits then
            some (String.ofList name.reverse, ⟨hexValue digits⟩)
          else
            none
      | _ => none
  | _ => none

theorem readLabel?_label (name : String) (id : BlockId) :
    readLabel? (id.label name) = some (name, id) := by
  have reversed : (id.label name).toList.reverse =
      ']' :: (id.hex.reverse ++ '[' :: name.toList.reverse) := by
    simp [label, String.toList_append]
  have unopened : ∀ char ∈ id.hex.reverse, decide (char ≠ '[') = true := by
    intro char member
    rw [decide_eq_true_iff]
    rintro rfl
    exact not_mem_hex rfl (List.mem_reverse.mp member)
  have name_eq : (id.hex.reverse ++ '[' :: name.toList.reverse).dropWhile (· ≠ '[') =
      '[' :: name.toList.reverse := by
    rw [List.dropWhile_append_of_pos unopened, List.dropWhile_cons_of_neg (by decide)]
  have digits_eq : (id.hex.reverse ++ '[' :: name.toList.reverse).takeWhile (· ≠ '[') =
      id.hex.reverse := by
    rw [List.takeWhile_append_of_pos unopened, List.takeWhile_cons_of_neg (by decide),
      List.append_nil]
  simp only [readLabel?, reversed, name_eq, digits_eq, List.reverse_reverse, hexValue_hex,
    spells_hex, if_true, String.ofList_toList]

theorem eq_label_of_readLabel? {text name : String} {id : BlockId}
    (read : readLabel? text = some (name, id)) : text = id.label name := by
  unfold readLabel? at read
  split at read
  next reversed closed =>
    split at read
    next before opened =>
      have parts := List.takeWhile_append_dropWhile (p := (· ≠ '[')) (l := reversed)
      rw [opened] at parts
      simp only at read
      generalize digits_eq : (reversed.takeWhile (· ≠ '[')).reverse = digits at read
      split at read
      next spells =>
        cases read
        apply String.toList_inj.mp
        rw [label, ← spells.eq_hex, ← List.reverse_reverse text.toList, closed, ← parts,
          ← digits_eq]
        simp
      next => cases read
    next => cases read
  next => cases read

/-- Reading accepts the labels and nothing else. -/
theorem readLabel?_eq_some_iff {text name : String} {id : BlockId} :
    readLabel? text = some (name, id) ↔ text = id.label name := by
  constructor
  · exact eq_label_of_readLabel?
  · rintro rfl
    exact readLabel?_label name id

-- Names that end like labels, and digits that spell nothing.
example : readLabel? "f[0001][0002]" = some ("f[0001]", ⟨2⟩) := by decide
example : readLabel? "f[00002]" = none ∧ readLabel? "f[001A]" = none := by decide

theorem label_eq_label_iff {firstName secondName : String} {first second : BlockId} :
    first.label firstName = second.label secondName ↔
      firstName = secondName ∧ first = second := by
  constructor
  · intro same
    have read := readLabel?_label firstName first
    rw [same, readLabel?_label] at read
    cases read
    exact ⟨rfl, rfl⟩
  · rintro ⟨rfl, rfl⟩
    rfl

end BlockId

namespace Registry

variable (registry : Registry)

theorem label_injective : Function.Injective registry.label := by
  intro first second same
  exact (BlockId.label_eq_label_iff.mp same).2

theorem readLabel?_entries :
    registry.entries.map (fun entry => BlockId.readLabel? (registry.label entry.1)) =
      registry.entries.map fun entry => some (entry.2.name, entry.1) := by
  apply List.map_congr_left
  intro entry member
  rw [label, BlockId.readLabel?_label, nameOf, get?_of_mem_entries member]

end Registry

/-- **Labels are unambiguous.**  The label of a block is its name and, in brackets, the digits that
spell its identifier.  Both are read back from it, whatever the name contains, and no other text is
read as a label.  So labels agree only if name and identifier do, the labels of a registry differ,
and each of them tells the block it belongs to. -/
theorem labels_unambiguous :
    (∀ (text name : String) (id : BlockId), text = id.label name ↔
      ∃ digits, id.Spells digits ∧ text = name ++ "[" ++ String.ofList digits ++ "]") ∧
      (∀ text name id, BlockId.readLabel? text = some (name, id) ↔ text = id.label name) ∧
      (∀ (firstName secondName : String) (first second : BlockId),
        first.label firstName = second.label secondName ↔
          firstName = secondName ∧ first = second) ∧
      ∀ registry : Registry, Function.Injective registry.label ∧
        registry.entries.map (fun entry => BlockId.readLabel? (registry.label entry.1)) =
          registry.entries.map fun entry => some (entry.2.name, entry.1) := by
  refine ⟨?_, ?_, ?_, ?_⟩
  · intro text name id
    exact BlockId.eq_label_iff
  · intro text name id
    exact BlockId.readLabel?_eq_some_iff
  · intro firstName secondName first second
    exact BlockId.label_eq_label_iff
  · intro registry
    exact ⟨registry.label_injective, registry.readLabel?_entries⟩

end CallLedger

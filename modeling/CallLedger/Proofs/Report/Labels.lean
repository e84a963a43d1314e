import CallLedger.Registry
import Mathlib.Data.List.TakeWhile
import Mathlib.Tactic.IntervalCases

/-!
# Reading labels

A label ends with the identifier of its block in brackets, and hexadecimal digits hold no bracket.
So the last brackets of a line tell which block the line is about, even if blocks share a name, a
name has brackets, or no block of that identifier is registered.
-/

namespace CallLedger

namespace BlockId

/-- Value of a lower-case hexadecimal digit. -/
def digitValue (char : Char) : Nat :=
  if char.isDigit then char.toNat - '0'.toNat else char.toNat - 'a'.toNat + 10

/-- Number with these hexadecimal digits. -/
def hexValue (digits : List Char) : Nat :=
  digits.foldl (fun value char => value * 16 + digitValue char) 0

theorem digitValue_digitChar {digit : Nat} (small : digit < 16) :
    digitValue digit.digitChar = digit := by
  interval_cases digit <;> rfl

theorem hexValue_concat (digits : List Char) (char : Char) :
    hexValue (digits ++ [char]) = hexValue digits * 16 + digitValue char := by
  rw [hexValue, List.foldl_append, ← hexValue]
  rfl

/-- A number is written most significant digit first. -/
theorem toDigits_eq (number : Nat) :
    Nat.toDigits 16 number =
      (if number < 16 then [] else Nat.toDigits 16 (number / 16)) ++ [(number % 16).digitChar] := by
  rw [Nat.toDigits_eq_if (by decide)]
  split
  next small => rw [Nat.mod_eq_of_lt small, List.nil_append]
  next => rfl

theorem hexValue_toDigits (number : Nat) : hexValue (Nat.toDigits 16 number) = number := by
  induction number using Nat.strongRecOn with
  | ind number ih =>
      rw [toDigits_eq, hexValue_concat, digitValue_digitChar (Nat.mod_lt number (by decide))]
      split
      next small => simp [hexValue, Nat.mod_eq_of_lt small]
      next => rw [ih (number / 16) (by omega), Nat.div_add_mod']

theorem hexValue_replicate_append (count : Nat) (digits : List Char) :
    hexValue (List.replicate count '0' ++ digits) = hexValue digits := by
  induction count with
  | zero => rfl
  | succ count ih => exact ih

@[simp] theorem hexValue_hex (id : BlockId) : hexValue id.hex = id.index := by
  rw [hex, List.leftpad, hexValue_replicate_append, hexValue_toDigits]

theorem mem_toDigits {number : Nat} {char : Char} (member : char ∈ Nat.toDigits 16 number) :
    ∃ digit < 16, char = Nat.digitChar digit := by
  induction number using Nat.strongRecOn with
  | ind number ih =>
      rw [toDigits_eq, List.mem_append, List.mem_singleton] at member
      rcases member with leading | rfl
      · split at leading
        next => cases leading
        next large => exact ih (number / 16) (by omega) leading
      · exact ⟨number % 16, Nat.mod_lt number (by decide), rfl⟩

/-- Each digit of an identifier is a letter or a decimal digit. -/
theorem isAlphanum_of_mem_hex {id : BlockId} {char : Char} (member : char ∈ id.hex) :
    char.isAlphanum = true := by
  rw [hex, List.leftpad, List.mem_append, List.mem_replicate] at member
  rcases member with ⟨_, rfl⟩ | written
  · rfl
  · obtain ⟨digit, small, rfl⟩ := mem_toDigits written
    interval_cases digit <;> rfl

theorem not_mem_hex {id : BlockId} {char : Char} (other : char.isAlphanum = false) :
    char ∉ id.hex := by
  intro member
  rw [isAlphanum_of_mem_hex member] at other
  cases other

end BlockId

namespace Report

/-- Identifier in the last brackets of a line. -/
def idOf (line : String) : BlockId :=
  ⟨BlockId.hexValue ((line.toList.reverse.takeWhile (· ≠ '[')).reverse.takeWhile (· ≠ ']'))⟩

/-- A line is about the block of its last label. -/
theorem idOf_append_label (before : String) (registry : Registry) (id : BlockId) {after : String}
    (closed : '[' ∉ after.toList) : idOf (before ++ registry.label id ++ after) = id := by
  have read : (before ++ registry.label id ++ after).toList.reverse =
      (id.hex ++ ']' :: after.toList).reverse ++
        '[' :: (before.toList ++ (registry.nameOf id).toList).reverse := by
    simp [Registry.label, BlockId.label, String.toList_append]
  have unopened : ∀ char ∈ (id.hex ++ ']' :: after.toList).reverse, decide (char ≠ '[') = true := by
    intro char member
    rw [decide_eq_true_iff]
    rintro rfl
    simp [closed, BlockId.not_mem_hex] at member
  have unclosed : ∀ char ∈ id.hex, decide (char ≠ ']') = true := by
    intro char member
    rw [decide_eq_true_iff]
    rintro rfl
    exact BlockId.not_mem_hex rfl member
  rw [idOf, read, List.takeWhile_append_of_pos unopened, List.takeWhile_cons_of_neg (by decide),
    List.append_nil, List.reverse_reverse, List.takeWhile_append_of_pos unclosed,
    List.takeWhile_cons_of_neg (by decide), List.append_nil, BlockId.hexValue_hex]

end Report

end CallLedger

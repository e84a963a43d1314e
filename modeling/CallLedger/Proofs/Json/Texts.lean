import CallLedger.Json
import CallLedger.Proofs.Json.Reader
import Mathlib.Tactic.IntervalCases

/-!
# Texts in JSON texts

Quotes, backslashes and control characters are escaped, everything else is written as it is.
Reading what was written of a character appends the code of the character to the codes read so
far, and the codes of a text make up the text again, so any text at all survives.
-/

namespace CallLedger.Json

theorem charOf?_toNat (char : Char) : charOf? char.toNat = some char := by
  have valid : char.toNat.isValidChar := char.valid
  rw [charOf?, if_pos valid, Char.ofNat_toNat]

/-- The codes of characters make up the characters: none of them is half of a surrogate pair. -/
theorem ofCodes?_toNat (chars : List Char) : ofCodes? (chars.map Char.toNat) = some chars := by
  induction chars with
  | nil => rfl
  | cons char rest ih =>
      cases rest with
      | nil => simp [ofCodes?, charOf?_toNat]
      | cons next others =>
          have whole : ¬ (0xd800 ≤ char.toNat ∧ char.toNat < 0xdc00) := by
            have valid : char.toNat < 0xd800 ∨ 0xdfff < char.toNat ∧ char.toNat < 0x110000 :=
              char.valid
            omega
          rw [List.map_cons, List.map_cons, ofCodes?, if_neg whole, charOf?_toNat,
            ← List.map_cons, ih]
          rfl

namespace Reader

variable (parser : Parser) (codes : List Nat)

/-- A control character without a short escape is written by its code. -/
theorem foldlM_control {code : Nat} (control : code < 0x20) :
    ('\\' :: 'u' :: (Nat.toDigits 16 code).leftpad 4 '0').foldlM step ⟨.text codes, parser⟩ =
      some ⟨.text (codes ++ [code]), parser⟩ := by
  interval_cases code <;> rfl

/-- What is written of a character stands for the character. -/
theorem foldlM_escape (char : Char) :
    (escape char).foldlM step ⟨.text codes, parser⟩ =
      some ⟨.text (codes ++ [char.toNat]), parser⟩ := by
  unfold escape
  split
  next => rfl
  next => rfl
  next => rfl
  next => rfl
  next => rfl
  next => rfl
  next => rfl
  next notQuote notBackslash _ _ _ _ _ =>
    split
    next control => exact foldlM_control parser codes control
    next printable =>
      simp only [List.foldlM_cons, List.foldlM_nil, step, if_neg notQuote, if_neg notBackslash,
        if_neg printable]
      rfl

theorem foldlM_escapes (chars : List Char) :
    (chars.flatMap escape).foldlM step ⟨.text codes, parser⟩ =
      some ⟨.text (codes ++ chars.map Char.toNat), parser⟩ := by
  induction chars generalizing codes with
  | nil => rw [List.map_nil, List.append_nil]; rfl
  | cons char rest ih =>
      rw [List.flatMap_cons, List.foldlM_append, foldlM_escape]
      refine (ih (codes ++ [char.toNat])).trans ?_
      rw [List.append_assoc]
      rfl

theorem step_closing (text : String) :
    step ⟨.text (text.toList.map Char.toNat), parser⟩ '"' =
      (parser.accept (.text text)).map (⟨.none, ·⟩) := by
  simp [step, ofCodes?_toNat]

/-- A text in quotes is one lexeme, whatever the text is. -/
theorem foldlM_quoted (text : String) :
    (quoted text).foldlM step ⟨.none, parser⟩ =
      (parser.accept (.text text)).map (⟨.none, ·⟩) := by
  have opened : step ⟨.none, parser⟩ '"' = some ⟨.text [], parser⟩ := rfl
  rw [quoted, List.cons_append, List.foldlM_cons, opened]
  simp only [Option.bind_eq_bind, Option.bind_some, List.foldlM_append, List.foldlM_cons,
    List.foldlM_nil, foldlM_escapes, List.nil_append, step_closing]
  exact Option.bind_fun_some _

end Reader

end CallLedger.Json

import CallLedger.Input
import Mathlib.Data.List.Basic

/-!
# Bytes of text

Text is stored character by character.  A character below 128 is stored as the byte of its own
number, and all bytes of other characters are 128 or above.  So a byte below 128 is never part
of another character: it can be looked for, or put at the end, without decoding anything.
-/

namespace CallLedger.Bytes

section Characters

variable {char ascii : Char}

theorem utf8EncodeChar_of_lt (small : char.toNat < 128) :
    String.utf8EncodeChar char = [.ofNat char.toNat] := by
  have atMost : char.val.toNat ≤ 127 := Nat.le_of_lt_succ small
  simp only [String.utf8EncodeChar, atMost, if_true]
  rfl

/-- The leading bit of every byte is set, whatever bits of the number follow it. -/
theorem le_of_mem_utf8EncodeChar (large : 128 ≤ char.toNat) {byte : UInt8}
    (member : byte ∈ String.utf8EncodeChar char) : 128 ≤ byte.toNat := by
  have above : ¬ char.val.toNat ≤ 127 := Nat.not_le_of_lt large
  simp only [String.utf8EncodeChar, if_neg above] at member
  split at member
  · simp only [List.mem_cons, List.not_mem_nil, or_false] at member
    rcases member with rfl | rfl <;> rw [UInt8.toNat_ofNat'] <;> omega
  · split at member
    · simp only [List.mem_cons, List.not_mem_nil, or_false] at member
      rcases member with rfl | rfl | rfl <;> rw [UInt8.toNat_ofNat'] <;> omega
    · simp only [List.mem_cons, List.not_mem_nil, or_false] at member
      rcases member with rfl | rfl | rfl | rfl <;> rw [UInt8.toNat_ofNat'] <;> omega

/-- A byte below 128 is a character of its own. -/
theorem eq_of_mem_utf8EncodeChar (small : ascii.toNat < 128)
    (member : UInt8.ofNat ascii.toNat ∈ String.utf8EncodeChar char) : char = ascii := by
  have number_eq : (UInt8.ofNat ascii.toNat).toNat = ascii.toNat := by
    rw [UInt8.toNat_ofNat']
    exact Nat.mod_eq_of_lt (Nat.lt_trans small (by decide))
  rcases Nat.lt_or_ge char.toNat 128 with charSmall | large
  · rw [utf8EncodeChar_of_lt charSmall, List.mem_singleton] at member
    have same := congrArg UInt8.toNat member
    rw [number_eq, UInt8.toNat_ofNat',
      Nat.mod_eq_of_lt (Nat.lt_trans charSmall (by decide))] at same
    exact Char.toNat_inj.mp same.symm
  · have above := le_of_mem_utf8EncodeChar large member
    rw [number_eq] at above
    exact absurd small (Nat.not_lt.mpr above)

end Characters

private theorem toList_loop (bytes : ByteArray) (position : Nat) (done : List UInt8) :
    ByteArray.toList.loop bytes position done =
      done.reverse ++ bytes.data.toList.drop position := by
  fun_induction ByteArray.toList.loop bytes position done with
  | case1 position done inside ih =>
      have within : position < bytes.data.toList.length := inside
      rw [ih, List.drop_eq_getElem_cons within, List.reverse_cons, List.append_assoc]
      simp [ByteArray.get!, inside]
  | case2 position done outside =>
      have beyond : bytes.data.toList.length ≤ position := Nat.le_of_not_lt outside
      rw [List.drop_eq_nil_of_le beyond, List.append_nil]

theorem toList_eq (bytes : ByteArray) : bytes.toList = bytes.data.toList :=
  toList_loop bytes 0 []

theorem ofText_eq (text : String) :
    ofText text = text.toList.flatMap String.utf8EncodeChar := by
  rw [ofText, toList_eq, String.toUTF8_eq_toByteArray, ← String.utf8Encode_toList,
    List.utf8Encode, List.toList_data_toByteArray]

@[simp] theorem ofText_append (first second : String) :
    ofText (first ++ second) = ofText first ++ ofText second := by
  rw [ofText_eq, ofText_eq, ofText_eq, String.toList_append, List.flatMap_append]

theorem mem_ofText {ascii : Char} (small : ascii.toNat < 128) {text : String} :
    .ofNat ascii.toNat ∈ ofText text ↔ ascii ∈ text.toList := by
  rw [ofText_eq, List.mem_flatMap]
  constructor
  · rintro ⟨char, listed, member⟩
    exact eq_of_mem_utf8EncodeChar small member ▸ listed
  · intro listed
    refine ⟨ascii, listed, ?_⟩
    rw [utf8EncodeChar_of_lt small]
    exact List.mem_singleton_self _

/-- Bytes are read as the text that they are the bytes of. -/
theorem toText?_eq_some_iff {bytes : Bytes} {text : String} :
    bytes.toText? = some text ↔ bytes = ofText text := by
  rw [toText?, String.fromUTF8?, ofText, toList_eq, String.toUTF8_eq_toByteArray]
  constructor
  · intro decoded
    split at decoded
    next valid =>
      cases decoded
      rfl
    next => cases decoded
  · rintro rfl
    rw [Array.toArray_toList, dif_pos text.isValidUTF8]
    rfl

@[simp] theorem toText?_ofText (text : String) : (ofText text).toText? = some text :=
  toText?_eq_some_iff.mpr rfl

/-- A character below 128 at the end is read as itself, and does not make text of bytes that
are none. -/
theorem toText?_concat {ascii : Char} (small : ascii.toNat < 128) (bytes : Bytes) :
    toText? (bytes ++ [.ofNat ascii.toNat]) = bytes.toText?.map (·.push ascii) := by
  ext text
  rw [Option.map_eq_some_iff]
  simp only [toText?_eq_some_iff]
  constructor
  · intro encoded
    have written := ofText_eq text
    rw [← encoded] at written
    rcases List.eq_nil_or_concat' text.toList with empty | ⟨front, last, spelled⟩
    · rw [empty] at written
      simp at written
    · rw [spelled, List.flatMap_append, List.flatMap_singleton] at written
      have ends : UInt8.ofNat ascii.toNat ∈ String.utf8EncodeChar last := by
        have last_eq := congrArg List.getLast? written
        rw [List.getLast?_concat,
          List.getLast?_append_of_ne_nil _ String.utf8EncodeChar_ne_nil] at last_eq
        exact List.mem_of_getLast? last_eq.symm
      cases eq_of_mem_utf8EncodeChar small ends
      rw [utf8EncodeChar_of_lt small] at written
      refine ⟨.ofList front, ?_, ?_⟩
      · rw [ofText_eq, String.toList_ofList]
        exact List.append_cancel_right written
      · rw [← String.toList_inj, String.toList_push, String.toList_ofList, spelled]
  · rintro ⟨front, rfl, rfl⟩
    rw [ofText_eq, ofText_eq, String.toList_push, List.flatMap_append, List.flatMap_singleton,
      utf8EncodeChar_of_lt small]

end CallLedger.Bytes

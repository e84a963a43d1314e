/-!
# Limited text

A short symbol can have a readable form of any length, because parts of it may be
repeated by reference.  The readable form is therefore cut off where the next piece of
it would exceed a number of bytes.
-/

namespace CallLedger.Symbol

/-- How many bytes the readable form of a symbol may have. -/
def maxBytes : Nat := 1000000

/-- What ends a readable form that was cut off. -/
def cutMark : String := "\x7bsize limit reached\x7d"

/-- Pieces of text put after a text as long as there is room for them. -/
def appendWithin (room : Nat) (text : String) : List String → String
  | [] => text
  | piece :: pieces =>
      if piece.utf8ByteSize ≤ room then
        appendWithin (room - piece.utf8ByteSize) (text ++ piece) pieces
      else
        text ++ cutMark

@[simp] theorem appendWithin_nil (room : Nat) (text : String) :
    appendWithin room text [] = text := rfl

/-- A text that fits is put together from its pieces. -/
theorem appendWithin_eq_append {room : Nat} {text : String} {pieces : List String}
    (fits : (String.join pieces).utf8ByteSize ≤ room) :
    appendWithin room text pieces = text ++ String.join pieces := by
  induction pieces generalizing room text with
  | nil => simp
  | cons piece pieces ih =>
      rw [String.join_cons, String.utf8ByteSize_append] at fits
      have pieceFits : piece.utf8ByteSize ≤ room := by omega
      have restFits : (String.join pieces).utf8ByteSize ≤ room - piece.utf8ByteSize := by
        omega
      simp [appendWithin, pieceFits, ih restFits, String.append_assoc]

end CallLedger.Symbol

import CallLedger.Csv

/-!
# Reading comma-separated values

A reader goes through a text character by character.  Fields are separated by commas, records
end with a line feed that a carriage return may precede, and the last record may do without.
Inside of quotes every character belongs to the field, and two quotes stand for one.  A quote in
the middle of a bare field, a carriage return that ends nothing, and text behind a closing quote
are refused.  The main statement is that a reader recovers the values of all fields of all
records from the text written of them.
-/

namespace CallLedger.Csv

/-- Whether a character ends a bare field or may not stand in one. -/
def isSpecial (char : Char) : Bool :=
  char = ',' || char = '"' || char = '\r' || char = '\n'

/-- Where in the text of a record a reader is. -/
inductive Place where
  /-- In front of a record or behind the last one. -/
  | recordStart
  /-- In front of a field that follows a comma. -/
  | fieldStart
  /-- Behind these characters of a bare field. -/
  | bare (text : List Char)
  /-- Behind these characters of a quoted field. -/
  | quoted (text : List Char)
  /-- Behind a quote in a quoted field: it ends the field unless another one follows. -/
  | quote (text : List Char)
  /-- Between the carriage return and the line feed at the end of a record. -/
  | lineEnd
  deriving DecidableEq

/-- A reader in the middle of a text. -/
structure Reader where
  place : Place
  /-- The fields of the present record that are complete. -/
  fields : List String
  /-- The records that are complete. -/
  records : List (List String)
  deriving DecidableEq

namespace Reader

/-- A reader in front of a text. -/
def start : Reader :=
  ⟨.recordStart, [], []⟩

/-- Complete a field. -/
def endField (reader : Reader) (text : List Char) (place : Place) : Reader :=
  { reader with place := place, fields := reader.fields ++ [String.ofList text] }

/-- Complete a record. -/
def endRecord (reader : Reader) : Reader :=
  ⟨.recordStart, [], reader.records ++ [reader.fields]⟩

/-- Read the character that ends a field. -/
def close (reader : Reader) (text : List Char) : Char → Option Reader
  | ',' => some (reader.endField text .fieldStart)
  | '\n' => some (reader.endField text .recordStart).endRecord
  | '\r' => some (reader.endField text .lineEnd)
  | _ => none

/-- Read a character of a bare field or behind it. -/
def readBare (reader : Reader) (text : List Char) (char : Char) : Option Reader :=
  if isSpecial char then
    reader.close text char
  else
    some { reader with place := .bare (text ++ [char]) }

/-- Read one character. -/
def step (reader : Reader) (char : Char) : Option Reader :=
  match reader.place with
  | .recordStart | .fieldStart =>
      if char = '"' then some { reader with place := .quoted [] } else reader.readBare [] char
  | .bare text => reader.readBare text char
  | .quoted text =>
      some { reader with place := if char = '"' then .quote text else .quoted (text ++ [char]) }
  | .quote text =>
      if char = '"' then
        some { reader with place := .quoted (text ++ [char]) }
      else
        reader.close text char
  | .lineEnd => if char = '\n' then some reader.endRecord else none

/-- The records of a text that ends here. -/
def finish (reader : Reader) : Option (List (List String)) :=
  match reader.place with
  | .recordStart => some reader.records
  | .fieldStart => some (reader.endField [] .recordStart).endRecord.records
  | .bare text | .quote text => some (reader.endField text .recordStart).endRecord.records
  | .quoted _ | .lineEnd => none

end Reader

/-- The records of a text. -/
def read? (text : String) : Option (List (List String)) :=
  (text.toList.foldlM Reader.step .start).bind Reader.finish

/-- Text that a bare field may hold. -/
def IsPlain (text : List Char) : Prop :=
  ∀ char ∈ text, isSpecial char = false

instance (text : List Char) : Decidable (IsPlain text) :=
  decidable_of_iff (text.all (!isSpecial ·) = true) (by simp [IsPlain])

/-- Whether a field can be told from what stands around it. -/
def Field.WF : Field → Prop
  | .bare text => IsPlain text.toList
  | .quoted _ => True

namespace IsPlain

variable {first second : List Char}

theorem head {char : Char} (plain : IsPlain (char :: first)) : isSpecial char = false :=
  plain char List.mem_cons_self

theorem tail {char : Char} (plain : IsPlain (char :: first)) : IsPlain first :=
  fun other member => plain other (List.mem_cons_of_mem char member)

theorem cons {char : Char} (ordinary : isSpecial char = false) (plain : IsPlain first) :
    IsPlain (char :: first) :=
  List.forall_mem_cons.mpr ⟨ordinary, plain⟩

theorem append (firstPlain : IsPlain first) (secondPlain : IsPlain second) :
    IsPlain (first ++ second) :=
  List.forall_mem_append.mpr ⟨firstPlain, secondPlain⟩

theorem replicate {char : Char} (ordinary : isSpecial char = false) (count : Nat) :
    IsPlain (List.replicate count char) := by
  intro other member
  rw [List.eq_of_mem_replicate member]
  exact ordinary

/-- Decimal digits are plain. -/
theorem toDigits (number : Nat) : IsPlain (Nat.toDigits 10 number) := by
  intro char member
  have digit := Nat.isDigit_of_mem_toDigits (by decide) (by decide) member
  rw [Bool.eq_false_iff]
  intro special
  simp only [isSpecial, Bool.or_eq_true, decide_eq_true_eq] at special
  rcases special with ((rfl | rfl) | rfl) | rfl <;> cases digit

end IsPlain

namespace Reader

variable (reader : Reader)

theorem readBare_of_plain {char : Char} (plain : isSpecial char = false) (text : List Char) :
    reader.readBare text char = some { reader with place := .bare (text ++ [char]) } := by
  rw [readBare, if_neg (by simp [plain])]

theorem foldlM_bare {text : List Char} (plain : IsPlain text) (before : List Char) :
    text.foldlM step { reader with place := .bare before } =
      some { reader with place := .bare (before ++ text) } := by
  induction text generalizing before with
  | nil => simp
  | cons char rest ih =>
      rw [List.foldlM_cons, step]
      simp only [readBare_of_plain _ plain.head, Option.bind_eq_bind, Option.bind_some]
      rw [ih plain.tail, List.append_assoc, List.singleton_append]

/-- Inside of quotes a reader takes two quotes as one and every other character as it is. -/
theorem foldlM_doubleQuotes (text before : List Char) :
    (doubleQuotes text).foldlM step { reader with place := .quoted before } =
      some { reader with place := .quoted (before ++ text) } := by
  induction text generalizing before with
  | nil => simp [doubleQuotes]
  | cons char rest ih =>
      rw [doubleQuotes, List.flatMap_cons, ← doubleQuotes]
      by_cases isQuote : char = '"'
      · subst isQuote
        have doubled : ['"', '"'].foldlM step { reader with place := .quoted before } =
            some { reader with place := .quoted (before ++ ['"']) } := rfl
        rw [if_pos rfl, List.foldlM_append, doubled, Option.bind_eq_bind, Option.bind_some, ih,
          List.append_assoc, List.singleton_append]
      · have single : [char].foldlM step { reader with place := .quoted before } =
            some { reader with place := .quoted (before ++ [char]) } := by
          simp [step, isQuote]
        rw [if_neg isQuote, List.foldlM_append, single, Option.bind_eq_bind, Option.bind_some, ih,
          List.append_assoc, List.singleton_append]

/-- What completes a field does not depend on where in the field the reader is. -/
theorem close_place (place : Place) (text : List Char) (char : Char) :
    { reader with place := place }.close text char = reader.close text char := by
  unfold close
  split <;> rfl

/-- In front of a field a reader takes the whole field, and what comes next completes it. -/
theorem foldlM_field {field : Field} (wf : field.WF) {place : Place}
    (before : place = .recordStart ∨ place = .fieldStart) :
    ∃ next, field.write.foldlM step { reader with place := place } = some next ∧
      ∀ last, last = ',' ∨ last = '\n' → next.step last = reader.close field.value.toList last := by
  have atStart : ∀ char, step { reader with place := place } char =
      if char = '"' then some { reader with place := .quoted [] }
      else { reader with place := place }.readBare [] char := by
    intro char
    rcases before with rfl | rfl <;> rfl
  cases field with
  | bare text =>
      have plain : IsPlain text.toList := wf
      rw [Field.write, Field.value]
      cases written : text.toList with
      | nil =>
          refine ⟨_, rfl, fun last ends => ?_⟩
          rw [atStart, ← reader.close_place place]
          rcases ends with rfl | rfl <;> rfl
      | cons first rest =>
          rw [written] at plain
          have firstNotQuote : first ≠ '"' := by
            rintro rfl
            cases plain.head
          have opened : step { reader with place := place } first =
              some { reader with place := .bare [first] } := by
            rw [atStart, if_neg firstNotQuote, readBare_of_plain _ plain.head]
            rfl
          refine ⟨{ reader with place := .bare (first :: rest) }, ?_, fun last ends => ?_⟩
          · rw [List.foldlM_cons, opened, Option.bind_eq_bind, Option.bind_some,
              foldlM_bare reader plain.tail]
            rfl
          · rw [← reader.close_place (.bare (first :: rest))]
            rcases ends with rfl | rfl <;> rfl
  | quoted text =>
      refine ⟨{ reader with place := .quote text.toList }, ?_, fun last ends => ?_⟩
      · rw [Field.write, List.cons_append, List.foldlM_cons, atStart, if_pos rfl,
          Option.bind_eq_bind, Option.bind_some, List.foldlM_append, foldlM_doubleQuotes reader]
        rfl
      · rw [← reader.close_place (.quote text.toList)]
        rcases ends with rfl | rfl <;> rfl

/-- Text that a reader takes, and the character after it. -/
theorem foldlM_concat {before after : Reader} {text : List Char}
    (taken : text.foldlM step before = some after) (last : Char) :
    (text ++ [last]).foldlM step before = after.step last := by
  simp [List.foldlM_append, taken]

/-- In front of a record, or behind some of its fields, a reader takes the rest of the record. -/
theorem foldlM_fields {fields : List Field} (wf : ∀ field ∈ fields, field.WF)
    (filled : fields ≠ []) {place : Place}
    (before : place = .recordStart ∨ place = .fieldStart) (done : List String)
    (records : List (List String)) :
    (writeFields fields ++ ['\n']).foldlM step ⟨place, done, records⟩ =
      some ⟨.recordStart, [], records ++ [done ++ fields.map Field.value]⟩ := by
  induction fields generalizing place done with
  | nil => exact absurd rfl filled
  | cons field rest ih =>
      have fieldWF := wf field List.mem_cons_self
      have restWF := fun other member => wf other (List.mem_cons_of_mem field member)
      obtain ⟨behind, taken, completed⟩ :=
        foldlM_field ⟨place, done, records⟩ fieldWF before
      cases rest with
      | nil =>
          rw [writeFields, foldlM_concat taken, completed _ (.inr rfl)]
          simp [close, endField, endRecord]
      | cons next others =>
          have split : writeFields (field :: next :: others) ++ ['\n'] =
              (field.write ++ [',']) ++ (writeFields (next :: others) ++ ['\n']) := by
            simp [writeFields]
          rw [split, List.foldlM_append, foldlM_concat taken, completed _ (.inl rfl)]
          simp only [close, Option.bind_eq_bind, Option.bind_some, endField,
            String.ofList_toList]
          rw [ih restWF (List.cons_ne_nil _ _) (.inr rfl)]
          simp

end Reader

/-- **Writing and reading.**  A reader recovers the values of all fields from the text of some
records, provided that none is without fields. -/
theorem read?_render {records : List (List Field)}
    (wf : ∀ record ∈ records, ∀ field ∈ record, field.WF) (filled : [] ∉ records) :
    read? (render records) = some (records.map (·.map Field.value)) := by
  have reads : ∀ read : List (List String),
      (records.flatMap fun record => writeFields record ++ ['\n']).foldlM Reader.step
          ⟨.recordStart, [], read⟩ =
        some ⟨.recordStart, [], read ++ records.map (·.map Field.value)⟩ := by
    induction records with
    | nil => simp
    | cons record rest ih =>
        intro read
        have recordFilled : record ≠ [] := fun empty => filled (empty ▸ List.mem_cons_self)
        have restFilled := fun member => filled (List.mem_cons_of_mem record member)
        have restWF := fun other member => wf other (List.mem_cons_of_mem record member)
        rw [List.flatMap_cons, List.foldlM_append,
          Reader.foldlM_fields (wf record List.mem_cons_self) recordFilled (.inl rfl),
          Option.bind_eq_bind, Option.bind_some, ih restWF restFilled, List.append_assoc]
        rfl
  rw [read?, render, String.toList_ofList]
  have all := reads []
  rw [List.nil_append] at all
  rw [Reader.start, all]
  rfl

example : read? "a,\"b,\"\"c\"\"\"\n" = some [["a", "b,\"c\""]] := by
  decide

/-- Nothing may stand between a quote and the separator behind it. -/
example : read? "a,\"b\"c\n" = none := by
  decide

end CallLedger.Csv

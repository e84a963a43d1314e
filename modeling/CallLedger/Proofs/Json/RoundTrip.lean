import CallLedger.Proofs.Json.Numbers
import CallLedger.Proofs.Json.Texts

/-!
# Reading documents back

The text of a document is read as what the document says.  In front of a value the text of the
value takes the parser behind it, whatever arrays and objects are around it: arrays and objects
are taken apart along the text, with the items and members read so far at the top of the stack.
A number has no end of its own, so it counts only once a blank, a comma or a bracket follows it,
which is what is written behind every value inside of a document.
-/

namespace CallLedger.Json

mutual

/-- What the text of a document says. -/
def value : Json → JsonValue
  | .whole natural => .number natural
  | .number binary => numberValue binary
  | .text content => .text content
  | .array items => .array (itemValues items)
  | .object members => .object (memberValues members)

/-- What the items of an array say. -/
def itemValues : List Json → List JsonValue
  | [] => []
  | item :: rest => item.value :: itemValues rest

/-- What the members of an object say. -/
def memberValues : List (String × Json) → List (String × JsonValue)
  | [] => []
  | (key, member) :: rest => (key, member.value) :: memberValues rest

end

namespace Reader

/-- A text is made of complete lexemes that take a parser from one place to another. -/
def Reads (before : Parser) (text : List Char) (after : Parser) : Prop :=
  text.foldlM step ⟨.none, before⟩ = some ⟨.none, after⟩

/-- A text takes a parser from one place to another if its last lexeme, which may be a word, is
complete. -/
def Takes (before : Parser) (text : List Char) (after : Parser) : Prop :=
  ∃ reader, text.foldlM step ⟨.none, before⟩ = some reader ∧ reader.settle = some after

/-- What may follow a word: nothing or a delimiter. -/
def EndsWord (rest : List Char) : Prop :=
  ∀ char ∈ rest.head?, isDelimiter char = true

section Texts

variable {before middle after : Parser} {text rest : List Char}

theorem Reads.takes (reads : Reads before text after) : Takes before text after :=
  ⟨_, reads, rfl⟩

theorem Reads.append (first : Reads before text middle) (second : Reads middle rest after) :
    Reads before (text ++ rest) after := by
  rw [Reads, List.foldlM_append, first]
  exact second

theorem Reads.append_takes (first : Reads before text middle) (second : Takes middle rest after) :
    Takes before (text ++ rest) after := by
  obtain ⟨reader, read, settled⟩ := second
  refine ⟨reader, ?_, settled⟩
  rw [List.foldlM_append, first]
  exact read

/-- A delimiter completes the lexeme in front of it. -/
theorem step_of_settle {reader : Reader} {parser : Parser} {char : Char}
    (settled : reader.settle = some parser) (ends : isDelimiter char = true) :
    step reader char = startLexeme parser char := by
  rcases reader with ⟨lexeme, parser⟩
  cases lexeme with
  | none =>
      cases settled
      rfl
  | word chars => simp only [step, ends, if_true, settled, Option.bind_some]
  | text codes => cases settled
  | escape codes => cases settled
  | code codes missing value => cases settled

theorem Takes.append (first : Takes before text middle) (second : Takes middle rest after)
    (ends : EndsWord rest) : Takes before (text ++ rest) after := by
  obtain ⟨reader, read, settled⟩ := first
  obtain ⟨last, readRest, settledLast⟩ := second
  cases rest with
  | nil =>
      cases readRest
      cases settledLast
      rw [List.append_nil]
      exact ⟨reader, read, settled⟩
  | cons char others =>
      refine ⟨last, ?_, settledLast⟩
      rw [List.foldlM_append, read]
      rw [List.foldlM_cons] at readRest
      change (step reader char >>= fun next => others.foldlM step next) = some last
      rw [step_of_settle settled (ends char rfl)]
      exact readRest

end Texts

theorem startLexeme_of_word {char : Char} (inside : isDelimiter char = false) (parser : Parser) :
    startLexeme parser char = some ⟨.word [char], parser⟩ := by
  simp only [isDelimiter, Bool.or_eq_false_iff, decide_eq_false_iff_not, Option.isSome_eq_false_iff,
    Option.isNone_iff_eq_none] at inside
  simp [startLexeme, inside]

theorem step_inside {char : Char} (inside : isDelimiter char = false) {start : List Char}
    {parser : Parser} :
    step ⟨.word start, parser⟩ char = some ⟨.word (start ++ [char]), parser⟩ := by
  simp [step, inside]

theorem foldlM_word {rest : List Char} (inside : ∀ char ∈ rest, isDelimiter char = false)
    (start : List Char) (parser : Parser) :
    rest.foldlM step ⟨.word start, parser⟩ = some ⟨.word (start ++ rest), parser⟩ := by
  induction rest generalizing start with
  | nil => rw [List.append_nil]; rfl
  | cons char others ih =>
      rcases List.forall_mem_cons.mp inside with ⟨first, behind⟩
      rw [List.foldlM_cons, step_inside first]
      refine (ih behind (start ++ [char])).trans ?_
      rw [List.append_assoc, List.singleton_append]

variable {stack : List Frame} {mayClose : Bool}

theorem takes_word {word : List Char} {value : JsonValue} (read : readWord? word = some value) :
    Takes ⟨stack, .value mayClose⟩ word ⟨stack, .behind value⟩ := by
  have inside := isDelimiter_of_readWord? read
  cases word with
  | nil => cases read
  | cons first rest =>
      rcases List.forall_mem_cons.mp inside with ⟨firstInside, behind⟩
      refine ⟨⟨.word (first :: rest), ⟨stack, .value mayClose⟩⟩, ?_, ?_⟩
      · have started := startLexeme_of_word firstInside ⟨stack, .value mayClose⟩
        rw [List.foldlM_cons]
        change (startLexeme _ first >>= fun next => rest.foldlM step next) = _
        rw [started]
        exact foldlM_word behind [first] _
      · simp only [settle, read]
        rfl

theorem reads_text (content : String) :
    Reads ⟨stack, .value mayClose⟩ (quoted content) ⟨stack, .behind (.text content)⟩ :=
  foldlM_quoted _ content

theorem reads_newLine (depth : Nat) (parser : Parser) : Reads parser (newLine depth) parser := by
  have blanks (count : Nat) :
      (List.replicate count ' ').foldlM step ⟨.none, parser⟩ = some ⟨.none, parser⟩ := by
    induction count with
    | zero => rfl
    | succ count ih => exact ih
  exact blanks (2 * depth)

/-- A key is followed by a colon and a blank. -/
theorem reads_key (members : List (String × JsonValue)) (key : String) :
    Reads ⟨stack, .key members mayClose⟩ (quoted key ++ [':', ' '])
      ⟨.object members key :: stack, .value false⟩ := by
  have name : Reads ⟨stack, .key members mayClose⟩ (quoted key) ⟨stack, .colon members key⟩ := by
    rw [Reads, foldlM_quoted]
    cases mayClose <;> rfl
  exact name.append rfl

/-- What follows an item, be it another item or the end of the array, ends a word. -/
theorem endsWord_items (depth outer : Nat) (items : List Json) :
    EndsWord (writeItems depth items ++ (newLine outer ++ [']'])) := by
  cases items with
  | nil => rintro _ ⟨⟩; rfl
  | cons item rest => rw [writeItems]; rintro _ ⟨⟩; rfl

/-- What follows a member, be it another member or the end of the object, ends a word. -/
theorem endsWord_members (depth outer : Nat) (members : List (String × Json)) :
    EndsWord (writeMembers depth members ++ (newLine outer ++ ['\x7d'])) := by
  cases members with
  | nil => rintro _ ⟨⟩; rfl
  | cons member rest => rw [writeMembers]; rintro _ ⟨⟩; rfl

mutual

/-- The text of a value takes the parser behind the value. -/
theorem takes_write (depth : Nat) (stack : List Frame) (mayClose : Bool) : ∀ document : Json,
    Takes ⟨stack, .value mayClose⟩ (document.write depth) ⟨stack, .behind document.value⟩
  | .whole natural => by
      rw [write, value]
      exact takes_word (readWord?_toDigits natural)
  | .number binary => by
      rw [write, value]
      exact takes_word (readWord?_numberText binary)
  | .text content => by
      rw [write, value]
      exact (reads_text content).takes
  | .array [] => by
      rw [write, value]
      exact Reads.takes rfl
  | .array (first :: rest) => by
      have opened : Reads ⟨stack, .value mayClose⟩ ('[' :: newLine (depth + 1))
          ⟨.array [] :: stack, .value true⟩ := reads_newLine (depth + 1) _
      have item := takes_write (depth + 1) (.array [] :: stack) true first
      have others := takes_items (depth + 1) depth stack [] first.value rest
      have taken := opened.append_takes (item.append others (endsWord_items _ _ _))
      rw [write, value, itemValues]
      simpa only [List.append_assoc, List.cons_append, List.nil_append] using taken
  | .object [] => by
      rw [write, value]
      exact Reads.takes rfl
  | .object ((key, member) :: rest) => by
      have opened : Reads ⟨stack, .value mayClose⟩ ('\x7b' :: newLine (depth + 1))
          ⟨stack, .key [] true⟩ := reads_newLine (depth + 1) _
      have item := takes_write (depth + 1) (.object [] key :: stack) false member
      have others := takes_members (depth + 1) depth stack [] key member.value rest
      have taken := (opened.append (reads_key [] key)).append_takes
        (item.append others (endsWord_members _ _ _))
      rw [write, value, memberValues]
      simpa only [List.append_assoc, List.cons_append, List.nil_append] using taken

/-- The text behind an item takes the parser behind the array. -/
theorem takes_items (depth outer : Nat) (stack : List Frame) (done : List JsonValue)
    (last : JsonValue) : ∀ items : List Json,
    Takes ⟨.array done :: stack, .behind last⟩
      (writeItems depth items ++ (newLine outer ++ [']']))
      ⟨stack, .behind (.array (done ++ last :: itemValues items))⟩
  | [] => by
      have closed : Reads ⟨.array done :: stack, .behind last⟩ [']']
          ⟨stack, .behind (.array (done ++ [last]))⟩ := rfl
      rw [writeItems, itemValues]
      exact ((reads_newLine outer _).append closed).takes
  | item :: rest => by
      have comma : Reads ⟨.array done :: stack, .behind last⟩ (',' :: newLine depth)
          ⟨.array (done ++ [last]) :: stack, .value false⟩ := reads_newLine depth _
      have taken := comma.append_takes
        ((takes_write depth (.array (done ++ [last]) :: stack) false item).append
          (takes_items depth outer stack (done ++ [last]) item.value rest)
          (endsWord_items _ _ _))
      rw [writeItems, itemValues]
      simpa only [List.append_assoc, List.cons_append, List.nil_append] using taken

/-- The text behind a member takes the parser behind the object. -/
theorem takes_members (depth outer : Nat) (stack : List Frame)
    (done : List (String × JsonValue)) (key : String) (last : JsonValue) :
    ∀ members : List (String × Json),
    Takes ⟨.object done key :: stack, .behind last⟩
      (writeMembers depth members ++ (newLine outer ++ ['\x7d']))
      ⟨stack, .behind (.object (done ++ (key, last) :: memberValues members))⟩
  | [] => by
      have closed : Reads ⟨.object done key :: stack, .behind last⟩ ['\x7d']
          ⟨stack, .behind (.object (done ++ [(key, last)]))⟩ := rfl
      rw [writeMembers, memberValues]
      exact ((reads_newLine outer _).append closed).takes
  | (nextKey, member) :: rest => by
      have comma : Reads ⟨.object done key :: stack, .behind last⟩ (',' :: newLine depth)
          ⟨stack, .key (done ++ [(key, last)]) false⟩ := reads_newLine depth _
      have taken := (comma.append (reads_key (done ++ [(key, last)]) nextKey)).append_takes
        ((takes_write depth (.object (done ++ [(key, last)]) nextKey :: stack) false member).append
          (takes_members depth outer stack (done ++ [(key, last)]) nextKey member.value rest)
          (endsWord_members _ _ _))
      rw [writeMembers, memberValues]
      simpa only [List.append_assoc, List.cons_append, List.nil_append] using taken

end

end Reader

/-- **Documents can be read back.**  The text of a document is one JSON text that says what the
document says. -/
theorem read?_render (document : Json) : read? document.render = some document.value := by
  obtain ⟨reader, read, settled⟩ := Reader.takes_write 0 [] false document
  rw [read?, render, String.toList_ofList]
  change ((document.write 0).foldlM Reader.step ⟨.none, ⟨[], .value false⟩⟩).bind _ = _
  rw [read, Option.bind_some, Reader.finish, settled]
  rfl

example : read? "[null, \"\\u0041\"]" = some (.array [.null, .text "A"]) := by
  rfl

/-- No comma may stand behind the last item. -/
example : read? "[true,]" = none := by
  rfl

end CallLedger.Json

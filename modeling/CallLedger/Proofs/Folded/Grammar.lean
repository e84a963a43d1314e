import CallLedger.Proofs.Decimal.Reading
import CallLedger.Proofs.Folded.Decision
import Mathlib.Data.List.DropRight

/-!
# The grammar of lines

Without the line ends at its end, a line ends the samples if it has no space or begins with one.
Any other line is a field, a space and a path.  If the field denotes a count, the line is a
sample; otherwise the count cannot be read.
-/

namespace CallLedger.Folded

/-- What is left of a text without all line ends at its end. -/
structure TrimsTo (text line : List Char) : Prop where
  append : ∃ ends, text = line ++ ends ∧ ∀ char ∈ ends, char = '\n' ∨ char = '\r'
  ended : ∀ last ∈ line.getLast?, last ≠ '\n' ∧ last ≠ '\r'

/-- The frames of a path.  The empty path has none, and in any other one they are what stands
between the semicolons. -/
inductive FramesOf : List Char → List String → Prop where
  | none : FramesOf [] []
  | pieces {path : List Char} {frames : List String} (nonempty : path ≠ [])
      (undivided : ∀ frame ∈ frames, ';' ∉ frame.toList)
      (joined : path = (";".intercalate frames).toList) : FramesOf path frames

/-- What a line means that has no line ends at its end, if it has the given number. -/
inductive Means (number : Nat) : List Char → Except CountError Line → Prop where
  | sectionEnd {line : List Char} (ends : ' ' ∉ line ∨ line.head? = some ' ') :
      Means number line (.ok .sectionEnd)
  | sample {field path : List Char} {count : Count} {frames : List String}
      (nonempty : field ≠ []) (unspaced : ' ' ∉ field)
      (counted : Decimal.Denotes field count.value) (listed : FramesOf path frames) :
      Means number (field ++ ' ' :: path) (.ok (.sample count frames))
  | unreadable {field path : List Char} {fault : Decimal.CountFault}
      (nonempty : field ≠ []) (unspaced : ' ' ∉ field)
      (uncounted : ∀ count : Count, ¬ Decimal.Denotes field count.value)
      (worded : fault.message =
        if Count.limit < Decimal.leadingNumber field then
          "number too large to fit in target type"
        else
          "invalid digit found in string") :
      Means number (field ++ ' ' :: path) (.error ⟨number, String.ofList field, fault⟩)

theorem isLineEnd_iff {char : Char} : isLineEnd char = true ↔ char = '\n' ∨ char = '\r' := by
  rw [isLineEnd, Bool.or_eq_true, beq_iff_eq, beq_iff_eq]

theorem trimLineEnds_concat {ending : Char} (isEnd : isLineEnd ending = true)
    (text : List Char) : trimLineEnds (text ++ [ending]) = trimLineEnds text :=
  List.rdropWhile_concat_pos isLineEnd text ending isEnd

theorem trimsTo_trimLineEnds (text : List Char) : TrimsTo text (trimLineEnds text) where
  append := by
    refine ⟨text.rtakeWhile isLineEnd, ?_, ?_⟩
    · exact List.rdropWhile_append_rtakeWhile.symm
    · intro char member
      exact isLineEnd_iff.mp (List.mem_rtakeWhile_imp member)
  ended := by
    intro last isLast
    rcases List.mem_getLast?_eq_getLast isLast with ⟨nonempty, rfl⟩
    have stays := List.rdropWhile_last_not isLineEnd text nonempty
    exact not_or.mp (mt isLineEnd_iff.mpr stays)

theorem TrimsTo.eq {text line : List Char} (trims : TrimsTo text line) :
    trimLineEnds text = line := by
  rcases trims with ⟨⟨ends, rfl, isEnd⟩, ended⟩
  induction ends using List.reverseRecOn with
  | nil =>
      rw [List.append_nil]
      refine List.rdropWhile_eq_self_iff.mpr fun nonempty isLast => ?_
      have last := ended _ (List.getLast?_eq_some_getLast nonempty)
      exact (isLineEnd_iff.mp isLast).elim last.1 last.2
  | append_singleton ends last ih =>
      have lastIsEnd : isLineEnd last = true :=
        isLineEnd_iff.mpr (isEnd last (List.mem_append_right _ List.mem_cons_self))
      rw [← List.append_assoc, trimLineEnds_concat lastIsEnd]
      exact ih fun char member => isEnd char (List.mem_append_left _ member)

/-- No piece has the character that a path is divided at. -/
theorem not_mem_of_mem_splitOn {path piece : List Char} {divider : Char}
    (listed : piece ∈ path.splitOn divider) : divider ∉ piece := by
  induction path generalizing piece with
  | nil =>
      rw [List.splitOn_nil, List.mem_singleton] at listed
      rw [listed]
      exact List.not_mem_nil
  | cons char rest ih =>
      rw [List.splitOn_cons_eq_if_modifyHead] at listed
      split at listed
      next =>
        rcases List.mem_cons.mp listed with rfl | later
        · exact List.not_mem_nil
        · exact ih later
      next different =>
        cases pieces : rest.splitOn divider with
        | nil => exact absurd pieces (List.splitOn_ne_nil divider rest)
        | cons first others =>
            rw [pieces] at ih
            rw [pieces, List.modifyHead_cons] at listed
            rcases List.mem_cons.mp listed with rfl | later
            · rw [List.mem_cons, not_or]
              refine ⟨fun same => different ?_, ih List.mem_cons_self⟩
              exact beq_iff_eq.mpr same.symm
            · exact ih (List.mem_cons_of_mem first later)

/-- A path is taken apart into its frames. -/
theorem splitPath_eq_iff {path : List Char} {frames : List String} :
    splitPath path = frames ↔ FramesOf path frames := by
  constructor
  · rintro rfl
    rw [splitPath]
    split
    next empty =>
      rw [List.isEmpty_iff.mp empty]
      exact .none
    next nonempty =>
      refine .pieces (mt List.isEmpty_iff.mpr nonempty) ?_ ?_
      · intro frame listed
        rcases List.mem_map.mp listed with ⟨piece, split, rfl⟩
        rw [String.toList_ofList]
        exact not_mem_of_mem_splitOn split
      · have pieces_eq : ((path.splitOn ';').map String.ofList).map String.toList =
            path.splitOn ';' := by
          simp
        rw [String.toList_intercalate, pieces_eq]
        exact (List.intercalate_splitOn ';').symm
  · intro framed
    cases framed with
    | none => rfl
    | pieces nonempty undivided joined =>
        have present : frames ≠ [] := by
          rintro rfl
          exact nonempty joined
        have pieces_eq : path.splitOn ';' = frames.map String.toList := by
          rw [joined, String.toList_intercalate]
          apply List.splitOn_intercalate ';' _ (mt List.map_eq_nil_iff.mp present)
          intro piece listed
          rcases List.mem_map.mp listed with ⟨frame, frameListed, rfl⟩
          exact undivided frame frameListed
        rw [splitPath, if_neg (mt List.isEmpty_iff.mp nonempty), pieces_eq]
        simp

/-- A line that does not end the samples is divided at its first space. -/
theorem fields_of_goesOn {text : String} (goesOn : ¬ EndsSection text) :
    countField text ≠ [] ∧ ' ' ∉ countField text ∧
      trimLineEnds text.toList = countField text ++ ' ' :: pathField text := by
  cases rest : (trimLineEnds text.toList).dropWhile (· != ' ') with
  | nil => exact absurd (endsSection_of_spaceless rest) goesOn
  | cons space path =>
      refine ⟨mt (endsSection_iff_of_spaced rest).mpr goesOn, ?_, ?_⟩
      · intro member
        have different := List.mem_takeWhile_imp member
        simp at different
      · have isSpace := List.head?_dropWhile_not (· != ' ') (trimLineEnds text.toList)
        simp only [rest, List.head?_cons, bne_eq_false_iff_eq] at isSpace
        subst isSpace
        have divided := List.takeWhile_append_dropWhile (p := (· != ' '))
          (l := trimLineEnds text.toList)
        rw [rest] at divided
        rw [pathField, rest, List.tail_cons]
        exact divided.symm

/-- A line with something before its first space is divided there. -/
theorem fields_of_append {text : String} {field path : List Char} (nonempty : field ≠ [])
    (unspaced : ' ' ∉ field) (line_eq : trimLineEnds text.toList = field ++ ' ' :: path) :
    ¬ EndsSection text ∧ countField text = field ∧ pathField text = path := by
  have passed : ∀ char ∈ field, (char != ' ') = true := by
    intro char member
    exact bne_iff_ne.mpr fun same => unspaced (same ▸ member)
  have rest : (trimLineEnds text.toList).dropWhile (· != ' ') = ' ' :: path := by
    rw [line_eq, List.dropWhile_append_of_pos passed]
    rfl
  have field_eq : countField text = field := by
    rw [countField, line_eq, List.takeWhile_append_of_pos passed]
    simp
  refine ⟨?_, field_eq, ?_⟩
  · rw [endsSection_iff_of_spaced rest, field_eq]
    exact nonempty
  · rw [pathField, rest, List.tail_cons]

/-- What a line is read as is what it means. -/
theorem means_parseLine (text : String) (number : Nat) :
    Means number (trimLineEnds text.toList) (parseLine text number) := by
  rw [parseLine_eq]
  by_cases ends : EndsSection text
  · rw [if_pos ends]
    exact .sectionEnd ends
  · rcases fields_of_goesOn ends with ⟨nonempty, unspaced, line_eq⟩
    rw [if_neg ends, line_eq]
    cases counted : Decimal.readCount (countField text) with
    | ok count =>
        exact .sample nonempty unspaced (Decimal.readCount_eq_ok_iff.mp counted)
          (splitPath_eq_iff.mp rfl)
    | error fault =>
        have uncounted : ∀ count : Count, ¬ Decimal.Denotes (countField text) count.value := by
          intro count denotes
          rw [Decimal.readCount_eq_ok_iff.mpr denotes] at counted
          cases counted
        rw [Decimal.readCount_of_unreadable nonempty uncounted] at counted
        cases counted
        refine .unreadable nonempty unspaced uncounted ?_
        split <;> rfl

/-- What a line means is what it is read as. -/
theorem parseLine_of_means {text : String} {line : List Char} (trims : TrimsTo text.toList line)
    {number : Nat} {result : Except CountError Line} (means : Means number line result) :
    parseLine text number = result := by
  have line_eq := trims.eq
  rw [parseLine_eq]
  cases means with
  | sectionEnd ends =>
      rw [← line_eq] at ends
      exact if_pos ends
  | sample nonempty unspaced counted listed =>
      rcases fields_of_append nonempty unspaced line_eq with ⟨goesOn, field_eq, path_eq⟩
      rw [if_neg goesOn, field_eq, path_eq, Decimal.readCount_eq_ok_iff.mpr counted,
        splitPath_eq_iff.mpr listed]
  | @unreadable field _ fault nonempty unspaced uncounted worded =>
      rcases fields_of_append nonempty unspaced line_eq with ⟨goesOn, field_eq, _⟩
      have fault_eq : fault =
          if Count.limit < Decimal.leadingNumber field then .tooLarge else .invalidDigit := by
        apply Decimal.CountFault.message_injective
        rw [worded]
        split <;> rfl
      rw [if_neg goesOn, field_eq, Decimal.readCount_of_unreadable nonempty uncounted, fault_eq]

/-- **A line is read by its grammar**: it is read as what it means, and as nothing else. -/
theorem parseLine_eq_iff {text : String} {number : Nat} {result : Except CountError Line} :
    parseLine text number = result ↔
      ∃ line, TrimsTo text.toList line ∧ Means number line result := by
  constructor
  · rintro rfl
    exact ⟨_, trimsTo_trimLineEnds text.toList, means_parseLine text number⟩
  · rintro ⟨line, trims, means⟩
    exact parseLine_of_means trims means

example : parseLine "+007 main loop;;\r \r\n" 1 = .ok (.sample 7 ["main loop", "", "\r "]) := by
  decide +kernel

end CallLedger.Folded

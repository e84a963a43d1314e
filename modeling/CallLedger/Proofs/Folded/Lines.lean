import CallLedger.Folded.Line
import Mathlib.Data.List.TakeWhile

/-!
# Lines and their bytes

An input is empty, or one line without a line feed, or a line with its line feed and more
input after it.  What is said of the lines of an input follows this shape.  Where an input ends
too early, its complete lines are what stands before the last line feed.
-/

namespace CallLedger.Bytes

/-- Behind the complete lines there is at most the beginning of another one. -/
theorem exists_completeLines_append (bytes : Bytes) :
    ∃ unfinished, bytes = bytes.completeLines ++ unfinished ∧ 10 ∉ unfinished := by
  refine ⟨(bytes.reverse.takeWhile (· != 10)).reverse, ?_, ?_⟩
  · rw [completeLines, ← List.reverse_append, List.takeWhile_append_dropWhile,
      List.reverse_reverse]
  · intro listed
    have different := List.mem_takeWhile_imp (List.mem_reverse.mp listed)
    simp at different

theorem getLast?_completeLines {bytes : Bytes} (something : bytes.completeLines ≠ []) :
    bytes.completeLines.getLast? = some 10 := by
  rw [completeLines, List.getLast?_reverse]
  rw [completeLines, ne_eq, List.reverse_eq_nil_iff] at something
  have stops := List.head?_dropWhile_not (· != 10) bytes.reverse
  cases rest : bytes.reverse.dropWhile (· != 10) with
  | nil => exact absurd rest something
  | cons byte others =>
      simp only [rest, List.head?_cons, bne_eq_false_iff_eq] at stops
      rw [List.head?_cons, stops]

end CallLedger.Bytes

namespace CallLedger.Folded

/-- The bytes of some lines, each with its line feed. -/
def joinLines (lines : List Bytes) : Bytes :=
  lines.flatMap (· ++ [10])

@[simp] theorem joinLines_cons (line : Bytes) (rest : List Bytes) :
    joinLines (line :: rest) = line ++ 10 :: joinLines rest := by
  simp [joinLines]

/-- Induction along the lines of an input. -/
@[elab_as_elim]
theorem lines_induction {motive : Bytes → Prop} (empty : motive [])
    (last : ∀ line, line ≠ [] → 10 ∉ line → motive line)
    (cons : ∀ line rest, 10 ∉ line → motive rest → motive (line ++ 10 :: rest))
    (input : Bytes) : motive input := by
  induction size : input.length using Nat.strongRecOn generalizing input with
  | ind length ih =>
      by_cases broken : 10 ∈ input
      · obtain ⟨line, rest, rfl, unbroken⟩ := List.eq_append_cons_of_mem broken
        have shorter : rest.length < length := by
          rw [← size, List.length_append, List.length_cons]
          omega
        exact cons line rest unbroken (ih rest.length shorter rest rfl)
      · by_cases nothing : input = []
        · exact nothing ▸ empty
        · exact last input nothing broken

@[simp] theorem splitLines_nil : splitLines [] = [] := by
  simp [splitLines]

theorem splitLines_last {line : Bytes} (nonempty : line ≠ []) (unbroken : 10 ∉ line) :
    splitLines line = [line] := by
  simp [splitLines, List.splitOn_eq_singleton unbroken, nonempty]

theorem splitLines_append_cons {line : Bytes} (unbroken : 10 ∉ line) (rest : Bytes) :
    splitLines (line ++ 10 :: rest) = line :: splitLines rest := by
  rw [splitLines, splitLines, List.splitOn_append_cons_self_of_not_mem unbroken]
  cases pieces : rest.splitOn 10 with
  | nil => exact absurd pieces (List.splitOn_ne_nil 10 rest)
  | cons piece others =>
      simp only [List.getLast?_cons_cons, List.dropLast_cons_cons]
      split <;> rfl

theorem not_mem_of_mem_splitLines {input line : Bytes} (listed : line ∈ splitLines input) :
    10 ∉ line := by
  induction input using lines_induction with
  | empty =>
      rw [splitLines_nil] at listed
      cases listed
  | last only nonempty unbroken =>
      rw [splitLines_last nonempty unbroken, List.mem_singleton] at listed
      rwa [listed]
  | cons first rest unbroken ih =>
      rw [splitLines_append_cons unbroken] at listed
      rcases List.mem_cons.mp listed with rfl | later
      · exact unbroken
      · exact ih later

/-- Joined lines are read back as they were, whatever follows them. -/
theorem splitLines_joinLines_append {lines : List Bytes}
    (unbroken : ∀ line ∈ lines, 10 ∉ line) (more : Bytes) :
    splitLines (joinLines lines ++ more) = lines ++ splitLines more := by
  induction lines with
  | nil => rfl
  | cons line rest ih =>
      rw [joinLines_cons, List.append_assoc, List.cons_append,
        splitLines_append_cons (unbroken line List.mem_cons_self),
        ih fun other listed => unbroken other (List.mem_cons_of_mem _ listed),
        List.cons_append]

/-- If the last line has its line feed, the bytes are those of the lines. -/
theorem joinLines_splitLines {input : Bytes} (ended : input.getLast? = some 10) :
    joinLines (splitLines input) = input := by
  induction input using lines_induction with
  | empty => cases ended
  | last only nonempty unbroken => exact absurd (List.mem_of_getLast? ended) unbroken
  | cons first rest unbroken ih =>
      rw [splitLines_append_cons unbroken, joinLines_cons]
      cases rest with
      | nil => rfl
      | cons byte more =>
          have later : (byte :: more).getLast? = some 10 := by
            simpa [List.getLast?_append, List.getLast?_cons_cons] using ended
          rw [ih later]

/-- If the last line has its line feed, there are as many lines as line feeds. -/
theorem length_splitLines {input : Bytes} (ended : input.getLast? = some 10) :
    (splitLines input).length = input.count 10 := by
  have counted : ∀ lines : List Bytes, (∀ line ∈ lines, 10 ∉ line) →
      (joinLines lines).count 10 = lines.length := by
    intro lines unbroken
    induction lines with
    | nil => rfl
    | cons line rest ih =>
        have none : line.count 10 = 0 :=
          List.count_eq_zero.mpr (unbroken line List.mem_cons_self)
        rw [joinLines_cons, List.count_append, List.count_cons_self, none,
          ih fun other listed => unbroken other (List.mem_cons_of_mem _ listed),
          List.length_cons, Nat.zero_add]
  rw [← counted _ fun _ listed => not_mem_of_mem_splitLines listed, joinLines_splitLines ended]

/-- An input with complete lines stands before any other line by line. -/
theorem splitLines_append {first : Bytes} (ended : first.getLast? = some 10) (second : Bytes) :
    splitLines (first ++ second) = splitLines first ++ splitLines second := by
  have split := splitLines_joinLines_append
    (fun _ (listed : _ ∈ splitLines first) => not_mem_of_mem_splitLines listed) second
  rwa [joinLines_splitLines ended] at split

/-- All lines of an input but the last have a line feed. -/
theorem joinLines_take_isPrefix {input : Bytes} {count : Nat}
    (inner : count < (splitLines input).length) :
    joinLines ((splitLines input).take count) <+: input := by
  induction input using lines_induction generalizing count with
  | empty => simp at inner
  | last only nonempty unbroken =>
      rw [splitLines_last nonempty unbroken, List.length_singleton, Nat.lt_one_iff] at inner
      rw [inner]
      exact List.nil_prefix
  | cons first rest unbroken ih =>
      rw [splitLines_append_cons unbroken] at inner ⊢
      cases count with
      | zero => exact List.nil_prefix
      | succ count =>
          rw [List.take_succ_cons, joinLines_cons, List.prefix_append_right_inj,
            List.prefix_cons_inj]
          exact ih (Nat.lt_of_succ_lt_succ inner)

end CallLedger.Folded

import CallLedger.Text.Cluster
import CallLedger.Text.Width

/-!
# Lines of a limited width

A text that is too wide for its place is broken into lines.  Lines are filled with the
words of the text, one blank between two of them, as long as they fit.  A word that does
not fit on any line is cut between two clusters.  A line with no room for a blank and
another character is complete.
-/

namespace CallLedger.Text

/-- A line that is being filled. -/
structure Line where
  text : String
  columns : Nat

namespace Line

def empty : Line := ⟨"", 0⟩

def isEmpty (line : Line) : Bool :=
  line.text.isEmpty

/-- A line with one more word on it.  Columns add up, because a blank means nothing to
the character before it. -/
def add (line : Line) (word : List Char) : Line :=
  if line.isEmpty then
    ⟨String.ofList word, columnsOf word⟩
  else
    ⟨line.text ++ " " ++ String.ofList word, line.columns + 1 + columnsOf word⟩

/-- Columns left for another word. -/
def room (limit : Nat) (line : Line) : Nat :=
  if line.isEmpty then limit else limit - line.columns - 1

/-- Whether there is no room for a blank and another character. -/
def isComplete (limit : Nat) (line : Line) : Bool :=
  decide (limit - 2 < line.columns)

end Line

/-- How many characters fit into some columns, in whole clusters, besides those counted
already. -/
def fitting (columns count : Nat) (chars : List Char) : Nat :=
  match chars with
  | [] => count
  | char :: rest =>
      match _ : firstCluster char rest with
      | (cluster, after) =>
        if columnsOf cluster ≤ columns then
          fitting (columns - columnsOf cluster) (count + cluster.length) after
        else
          count
termination_by chars.length
decreasing_by
  have shorter := firstCluster_length_le char rest
  rw [‹firstCluster char rest = _›] at shorter
  exact Nat.lt_succ_of_le shorter

/-- The words of a text, which are empty where blanks follow each other. -/
def wordsOf (text : String) : List (List Char) :=
  text.toList.splitOn ' '

/-- What filling lines has come to after one step. -/
structure Filling where
  /-- The line that the step completed, if it did. -/
  finished : Option String
  /-- The words that are still to be put on lines. -/
  words : List (List Char)
  /-- The line that is being filled. -/
  line : Line

/-- Complete a line if there is no room for more on it. -/
def Line.finish (limit : Nat) (words : List (List Char)) (line : Line) : Filling :=
  if line.isComplete limit then ⟨some line.text, words, .empty⟩ else ⟨none, words, line⟩

/-- How many characters of a word are put on a line that has no room for all of it: whole
clusters, but at least one character on a line without text. -/
def cut (limit : Nat) (word : List Char) (line : Line) : Nat :=
  let count := fitting (line.room limit) 0 word
  if line.isEmpty then max 1 count else count

/-- Put a word, or what fits of it, on a line.  If nothing fits, the blank before the word
is put there all the same. -/
def place (limit : Nat) (word : List Char) (rest : List (List Char)) (line : Line) : Filling :=
  if (line.add word).columns ≤ limit then
    (line.add word).finish limit rest
  -- A word that fits on a line of its own is not cut, and none is cut for two columns or less.
  else if line.isEmpty = false ∧ (line.room limit ≤ 2 ∨ columnsOf word ≤ limit) then
    ⟨some line.text, word :: rest, .empty⟩
  else
    let count := cut limit word line
    (line.add (word.take count)).finish limit (word.drop count :: rest)

/-- How much is still to be put on lines. -/
def outstanding : List (List Char) → Nat
  | [] => 0
  | word :: rest => word.length + 1 + outstanding rest

/-- How much can still happen to a line before another one is begun. -/
def Line.slack (limit : Nat) (line : Line) : Nat :=
  if line.isEmpty then 0 else limit - line.columns + 1

theorem Line.finish_words (limit : Nat) (words : List (List Char)) (line : Line) :
    (line.finish limit words).words = words := by
  unfold Line.finish
  split <;> rfl

theorem Line.slack_finish_le (limit : Nat) (words : List (List Char)) (line : Line) :
    (line.finish limit words).line.slack limit ≤ limit - line.columns + 1 := by
  have fresh : Line.empty.isEmpty = true := rfl
  unfold Line.finish
  split
  · simp [Line.slack, fresh]
  · unfold Line.slack
    dsimp only
    split <;> omega

/-- Every step either puts something on lines or leaves a line with less to happen. -/
theorem place_decreases (limit : Nat) (word : List Char) (rest : List (List Char))
    (line : Line) :
    Prod.Lex (· < ·) (· < ·)
      (outstanding (place limit word rest line).words,
        (place limit word rest line).line.slack limit)
      (outstanding (word :: rest), line.slack limit) := by
  unfold place
  split
  · apply Prod.Lex.left
    simp [Line.finish_words, outstanding]
  · next tooWide =>
    split
    · next kept =>
      have fresh : Line.empty.isEmpty = true := rfl
      simp only [Line.slack, fresh, if_true, kept.1]
      exact Prod.Lex.right _ (by simp)
    · next mustCut =>
      dsimp only
      by_cases none : cut limit word line = 0
      · have notEmpty : line.isEmpty = false := by
          cases isEmpty : line.isEmpty with
          | false => rfl
          | true => simp [cut, isEmpty] at none
        have roomy : 2 < line.room limit := by
          simp only [notEmpty, true_and, not_or] at mustCut
          omega
        simp only [Line.room, notEmpty] at roomy
        have bound := Line.slack_finish_le limit (word :: rest) (line.add [])
        simp only [Line.add, notEmpty, columnsOf, measureAll_nil] at bound
        simp only [none, List.take_zero, List.drop_zero, Line.finish_words]
        apply Prod.Lex.right
        simp only [Line.slack, notEmpty, Line.add, columnsOf, measureAll_nil] at bound ⊢
        simp at bound roomy ⊢
        omega
      · have nonempty : word ≠ [] := by
          rintro rfl
          cases isEmpty : line.isEmpty with
          | true => simp [Line.add, isEmpty, columnsOf] at tooWide
          | false => simp [isEmpty, columnsOf] at mustCut
        have positive : 0 < word.length := List.length_pos_iff.2 nonempty
        apply Prod.Lex.left
        simp only [Line.finish_words, outstanding, List.length_drop]
        omega

/-- Fill lines with words, beginning with a line that may hold some. -/
def fill (limit : Nat) (words : List (List Char)) (line : Line) : List String :=
  match words with
  | [] => if line.isEmpty then [] else [line.text]
  | word :: rest =>
      match _ : place limit word rest line with
      | ⟨none, words, next⟩ => fill limit words next
      | ⟨some text, words, next⟩ => text :: fill limit words next
termination_by (outstanding words, line.slack limit)
decreasing_by
  all_goals
    have less := place_decreases limit word rest line
    rwa [‹place limit word rest line = _›] at less

/-- The lines of a text.  A text that is not too wide is one line as it is. -/
def wrap (limit : Nat) (text : String) : List String :=
  if width text ≤ limit then [text] else fill limit (wordsOf text) .empty

end CallLedger.Text

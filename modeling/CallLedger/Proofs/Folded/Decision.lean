import CallLedger.Folded.Ingest
import CallLedger.Proofs.Folded.Lines
import Mathlib.Data.List.TakeWhile

/-!
# Lines that decide

Most lines are applied or skipped and leave open how an ingestion ends.  The first one that
does not decides: a line that is not text or whose count cannot be read makes the ingestion
fail, and a line that ends the samples makes it stop.  Which line that is can be told from the
bytes alone, line by line.
-/

namespace CallLedger.Folded

/-- Whether a text ends the samples: without line ends at its end it has no space, or it begins
with one. -/
def EndsSection (text : String) : Prop :=
  ' ' ∉ trimLineEnds text.toList ∨ (trimLineEnds text.toList).head? = some ' '

instance : DecidablePred EndsSection :=
  fun _ => inferInstanceAs (Decidable (_ ∨ _))

/-- What stands before the first space. -/
def countField (text : String) : List Char :=
  (trimLineEnds text.toList).takeWhile (· != ' ')

/-- What stands after the first space. -/
def pathField (text : String) : List Char :=
  ((trimLineEnds text.toList).dropWhile (· != ' ')).tail

/-- What a line decides about an ingestion. -/
inductive Decision where
  /-- It succeeds, and the rest is ignored. -/
  | stop
  /-- It fails. -/
  | fail (fault : Fault)
  deriving DecidableEq

namespace Options

/-- What the line with the given number decides, if it decides anything.  A header decides
nothing, unless it is not text. -/
def decision? (options : Options) (number : Nat) (line : Bytes) : Option Decision :=
  match line.toText? with
  | none => some (.fail .invalidText)
  | some text =>
      if number = 1 ∧ options.skipHeader = true then
        none
      else if EndsSection text then
        some .stop
      else
        match Decimal.readCount (countField text) with
        | .ok _ => none
        | .error fault =>
            some (.fail (.invalidCount ⟨number, String.ofList (countField text), fault⟩))

/-- The first line that decides, by its number, and its decision.  Lines are counted from the
given number on. -/
def firstDecision? (options : Options) (number : Nat) : List Bytes → Option (Nat × Decision)
  | [] => none
  | line :: rest =>
      match options.decision? number line with
      | some decision => some (number, decision)
      | none => options.firstDecision? (number + 1) rest

/-- The beginning of an input, up to the first line that decides. -/
def before (options : Options) (input : Bytes) : Bytes :=
  match options.firstDecision? 1 (splitLines input) with
  | none => input
  | some (number, _) => joinLines ((splitLines input).take (number - 1))

end Options

theorem endsSection_of_spaceless {text : String}
    (spaceless : (trimLineEnds text.toList).dropWhile (· != ' ') = []) : EndsSection text := by
  left
  intro member
  have different := List.dropWhile_eq_nil_iff.mp spaceless ' ' member
  simp at different

/-- A text with a space ends the samples only if nothing stands before the space. -/
theorem endsSection_iff_of_spaced {text : String} {space : Char} {path : List Char}
    (spaced : (trimLineEnds text.toList).dropWhile (· != ' ') = space :: path) :
    EndsSection text ↔ countField text = [] := by
  rw [EndsSection, countField]
  generalize trimLineEnds text.toList = line at spaced
  have stops := List.head?_dropWhile_not (· != ' ') line
  have listed : space ∈ line := (List.dropWhile_sublist _).subset (spaced ▸ List.mem_cons_self)
  simp only [spaced, List.head?_cons, bne_eq_false_iff_eq] at stops
  subst stops
  cases line with
  | nil => cases listed
  | cons first rest =>
      by_cases equal : first = ' '
      · simp [equal]
      · have later : ' ' ∈ rest := (List.mem_cons.mp listed).resolve_left (Ne.symm equal)
        simp [equal, later]

/-- A line is taken apart at its first space. -/
theorem parseLine_eq (text : String) (number : Nat) :
    parseLine text number =
      if EndsSection text then
        .ok .sectionEnd
      else
        match Decimal.readCount (countField text) with
        | .ok count => .ok (.sample count (splitPath (pathField text)))
        | .error fault => .error ⟨number, String.ofList (countField text), fault⟩ := by
  rw [parseLine, pathField]
  cases rest : (trimLineEnds text.toList).dropWhile (· != ' ') with
  | nil => rw [if_pos (endsSection_of_spaceless rest)]
  | cons space path =>
      simp only [endsSection_iff_of_spaced rest, List.tail_cons, List.isEmpty_iff]
      rfl

namespace Options

variable {options : Options} {number : Nat}

/-- A line decides unless it is applied or skipped. -/
theorem decision?_eq (options : Options) (number : Nat) (line : Bytes) :
    options.decision? number line =
      match options.read number line with
      | .skip _ | .apply _ _ => none
      | .stop => some .stop
      | .fail fault => some (.fail fault) := by
  rw [decision?, read]
  cases line.toText? with
  | none => rfl
  | some text =>
      simp only [parseLine_eq, Bool.and_eq_true, decide_eq_true_eq]
      split
      next => rfl
      next =>
        split
        next => rfl
        next => cases Decimal.readCount (countField text) <;> rfl

theorem undecided_of_cons {line : Bytes} {rest : List Bytes}
    (undecided : options.firstDecision? number (line :: rest) = none) :
    options.decision? number line = none ∧ options.firstDecision? (number + 1) rest = none := by
  cases decides : options.decision? number line with
  | none =>
      simp only [firstDecision?, decides] at undecided
      exact ⟨rfl, undecided⟩
  | some decision => simp only [firstDecision?, decides, reduceCtorEq] at undecided

/-- The lines before the first one that decides do not decide anything. -/
theorem exists_of_firstDecision? {lines : List Bytes} {place : Nat} {decision : Decision}
    (first : options.firstDecision? number lines = some (place, decision)) :
    ∃ earlier line later, lines = earlier ++ line :: later ∧
      place = number + earlier.length ∧ options.firstDecision? number earlier = none ∧
      options.decision? place line = some decision := by
  induction lines generalizing number with
  | nil => cases first
  | cons line rest ih =>
      cases decided : options.decision? number line with
      | some own =>
          simp only [firstDecision?, decided, Option.some.injEq, Prod.mk.injEq] at first
          rcases first with ⟨rfl, rfl⟩
          exact ⟨[], line, rest, rfl, rfl, rfl, decided⟩
      | none =>
          simp only [firstDecision?, decided] at first
          obtain ⟨earlier, other, later, rfl, rfl, undecided, otherDecides⟩ := ih first
          refine ⟨line :: earlier, other, later, rfl, ?_, ?_, otherDecides⟩
          · rw [List.length_cons]
            omega
          · simp only [firstDecision?, decided, undecided]

/-- What the thread refuses is never decided by a line. -/
theorem firstDecision?_ne_refused (options : Options) (number : Nat) (lines : List Bytes)
    (place : Nat) (violation : Violation) :
    options.firstDecision? number lines ≠ some (place, .fail (.refused violation)) := by
  intro first
  rcases exists_of_firstDecision? first with ⟨_, line, _, _, _, _, decides⟩
  rw [decision?] at decides
  cases decoded : line.toText? with
  | none => simp [decoded] at decides
  | some text =>
      simp only [decoded] at decides
      split at decides
      next => cases decides
      next =>
        split at decides
        next => cases decides
        next => cases counted : Decimal.readCount (countField text) <;> simp [counted] at decides

/-- What an input begins with, up to the line that decides. -/
theorem splitLines_before {input : Bytes} {place : Nat} {decision : Decision}
    (first : options.firstDecision? 1 (splitLines input) = some (place, decision)) :
    ∃ line later, splitLines input = splitLines (options.before input) ++ line :: later ∧
      place = 1 + (splitLines (options.before input)).length ∧
      options.firstDecision? 1 (splitLines (options.before input)) = none ∧
      options.decision? place line = some decision := by
  obtain ⟨earlier, line, later, lines_eq, rfl, undecided, decides⟩ :=
    exists_of_firstDecision? first
  have unbroken : ∀ other ∈ earlier, 10 ∉ other := by
    intro other listed
    have inInput : other ∈ splitLines input := by
      rw [lines_eq]
      exact List.mem_append_left _ listed
    exact not_mem_of_mem_splitLines inInput
  have before_eq : splitLines (options.before input) = earlier := by
    have joined := splitLines_joinLines_append unbroken []
    rw [List.append_nil, splitLines_nil, List.append_nil] at joined
    rw [before, first, lines_eq]
    simp only [Nat.add_sub_cancel_left, List.take_left]
    exact joined
  rw [before_eq]
  exact ⟨line, later, lines_eq, rfl, undecided, decides⟩

theorem before_eq_self {input : Bytes}
    (undecided : options.firstDecision? 1 (splitLines input) = none) :
    options.before input = input := by
  rw [before, undecided]

theorem undecided_before (options : Options) (input : Bytes) :
    options.firstDecision? 1 (splitLines (options.before input)) = none := by
  cases first : options.firstDecision? 1 (splitLines input) with
  | none => rwa [before_eq_self first]
  | some decided =>
      rcases splitLines_before first with ⟨_, _, _, _, undecided, _⟩
      exact undecided

theorem before_isPrefix (options : Options) (input : Bytes) : options.before input <+: input := by
  cases first : options.firstDecision? 1 (splitLines input) with
  | none => simp only [before_eq_self first, List.prefix_rfl]
  | some decided =>
      obtain ⟨earlier, line, later, lines_eq, place_eq, _⟩ := exists_of_firstDecision? first
      rw [before, first]
      apply joinLines_take_isPrefix
      rw [lines_eq, List.length_append, List.length_cons]
      omega

end Options

end CallLedger.Folded

import CallLedger.Job
import CallLedger.Proofs.Folded.Meaning
import CallLedger.Proofs.Folded.Outcome

/-!
# Loading what was read

Lines are handled as they come.  So a reading that breaks off makes a job fail only if no line
that came completely decides how the loading ends; otherwise what would have followed does not
matter, nor that it could not be read.
-/

namespace CallLedger

namespace Folded

/-- Loading fails exactly if the first line that decides says so. -/
theorem load_error_iff {options : Options} {input : Bytes} {fault : Fault} :
    (load options input).1 = .error fault ↔
      ∃ place, options.firstDecision? 1 (splitLines input) = some (place, .fail fault) := by
  have fault_eq := options.fault?_eq 1 (splitLines input)
  rcases decided : options.firstDecision? 1 (splitLines input) with - | ⟨place, - | found⟩
  all_goals rw [decided] at fault_eq
  · rcases load_of_faultless fault_eq with ⟨loaded, events, succeeded, _⟩
    simp [succeeded]
  · rcases load_of_faultless fault_eq with ⟨loaded, events, succeeded, _⟩
    simp [succeeded]
  · rcases load_of_fault fault_eq with ⟨events, failed⟩
    simp [failed]

/-- An ingestion tells that a line ended the samples exactly if one did. -/
theorem exists_ingest_eq_conclude (options : Options) (input : Bytes) :
    ∃ prior : State, prior.stats.stoppedAt = none ∧
      ingest options .empty freshTracked input =
        prior.conclude (options.firstDecision? 1 (splitLines input)) := by
  obtain ⟨prior, replays, ran⟩ := (State.invariant_replays (.of_settled rfl)).ingest
    (State.replays_start Thread.follows_start (.ofRegistry .empty) .empty) (splitLines input)
  exact ⟨prior, replays.stoppedAt_eq, ran⟩

end Folded

namespace Job

variable {job : Job} {reading : Reading} {fault : FileFault} {reason : Failure}

/-- What the first line that decides says, among those that came completely. -/
def firstDecision? (job : Job) (reading : Reading) : Option (Nat × Folded.Decision) :=
  job.options.firstDecision? 1 (Folded.splitLines reading.lines)

/-- Why a job cannot load what was read: the reading broke off and no complete line had decided
until then, or the first line that decides is not text or has a count that is none. -/
inductive Unloadable (job : Job) (reading : Reading) : Failure → Prop where
  | unreadable {fault : FileFault} (broke : reading.fault? = some fault)
      (undecided : job.firstDecision? reading = none) : Unloadable job reading (.file fault)
  | notText {place : Nat}
      (first : job.firstDecision? reading = some (place, .fail .invalidText)) :
      Unloadable job reading .invalidText
  | badCount {place : Nat} {error : Folded.CountError}
      (first : job.firstDecision? reading = some (place, .fail (.invalidCount error))) :
      Unloadable job reading (.unreadableCount error)

/-- If the complete lines leave the end open, the fault behind them is met. -/
theorem load_of_interrupted (broke : reading.fault? = some fault)
    (undecided : job.firstDecision? reading = none) :
    ∃ events, job.load reading = (.error (.file fault), events) := by
  obtain ⟨prior, unstopped, ran⟩ := Folded.exists_ingest_eq_conclude job.options reading.lines
  rw [← firstDecision?, undecided] at ran
  simp only [load, ran, broke, Folded.State.conclude, unstopped]
  exact ⟨_, rfl⟩

/-- If a complete line decides, or if there is no fault, the reading is as good as one that gave
no more than its complete lines. -/
theorem load_of_decided
    (decided : reading.fault? = none ∨ job.firstDecision? reading ≠ none) :
    job.load reading =
      ((Folded.load job.options reading.lines).1.mapError .ofFault,
        (Folded.load job.options reading.lines).2) := by
  obtain ⟨prior, _, ran⟩ := Folded.exists_ingest_eq_conclude job.options reading.lines
  rw [← firstDecision?] at ran
  simp only [load, Folded.load, ran]
  rcases decided with intact | decided
  · simp only [intact]
  · cases reading.fault? with
    | none => rfl
    | some fault =>
        cases first : job.firstDecision? reading with
        | none => exact absurd first decided
        | some last =>
            rcases last with ⟨place, - | found⟩
            · rfl
            · rfl

theorem load_of_fault {place : Nat} {found : Folded.Fault}
    (first : job.firstDecision? reading = some (place, .fail found)) :
    (job.load reading).1 = .error (.ofFault found) := by
  have decided : job.firstDecision? reading ≠ none := by
    rw [first]
    exact Option.some_ne_none _
  rw [load_of_decided (.inr decided), Folded.load_error_iff.mpr ⟨place, first⟩]
  rfl

theorem unloadable_of_fault {place : Nat} {found : Folded.Fault}
    (first : job.firstDecision? reading = some (place, .fail found)) :
    job.Unloadable reading (.ofFault found) := by
  cases found with
  | invalidText => exact .notText first
  | invalidCount error => exact .badCount first
  | refused violation => exact absurd first (job.options.firstDecision?_ne_refused 1 _ _ _)

/-- Loading what was read fails for these reasons and for no others. -/
theorem load_error_iff :
    (job.load reading).1 = .error reason ↔ job.Unloadable reading reason := by
  constructor
  · intro failed
    by_cases decided : reading.fault? = none ∨ job.firstDecision? reading ≠ none
    · rw [load_of_decided decided] at failed
      cases outcome : (Folded.load job.options reading.lines).1 with
      | ok loaded =>
          rw [outcome] at failed
          cases failed
      | error found =>
          rw [outcome] at failed
          cases failed
          obtain ⟨place, first⟩ := Folded.load_error_iff.mp outcome
          exact unloadable_of_fault first
    · obtain ⟨broken, notDecided⟩ := not_or.mp decided
      have undecided := not_not.mp notDecided
      obtain ⟨fault, broke⟩ := Option.ne_none_iff_exists'.mp broken
      obtain ⟨events, loads⟩ := load_of_interrupted broke undecided
      rw [loads] at failed
      cases failed
      exact .unreadable broke undecided
  · intro unloadable
    cases unloadable with
    | unreadable broke undecided =>
        obtain ⟨events, loads⟩ := load_of_interrupted broke undecided
        rw [loads]
    | notText first | badCount first => exact load_of_fault first

/-- **What follows the line that decides is not asked for**: it does not matter that it could not
be read, nor what it would have been. -/
theorem load_eq_of_broken_off (broke : reading.fault? = some fault)
    (decided : job.firstDecision? reading ≠ none) (rest : Bytes) :
    job.load reading = job.load (.whole (reading.bytes ++ rest)) := by
  have lines_eq : reading.lines = reading.bytes.completeLines := by
    rw [Reading.lines, broke]
  have ended : reading.lines.getLast? = some 10 := by
    rw [lines_eq]
    apply Bytes.getLast?_completeLines
    intro nothing
    rw [firstDecision?, lines_eq, nothing] at decided
    exact decided rfl
  obtain ⟨unfinished, bytes_eq, _⟩ := Bytes.exists_completeLines_append reading.bytes
  have split : Folded.splitLines (reading.bytes ++ rest) =
      Folded.splitLines reading.lines ++ Folded.splitLines (unfinished ++ rest) := by
    rw [bytes_eq, ← lines_eq, List.append_assoc, Folded.splitLines_append ended]
  have same : Folded.load job.options (reading.bytes ++ rest) =
      Folded.load job.options reading.lines := by
    rw [Folded.load, Folded.load, Folded.ingest, Folded.ingest, split,
      Folded.State.ingest_append_of_decided decided]
  rw [load_of_decided (.inr decided), load_of_decided (.inl rfl), ← same]
  rfl

end Job

end CallLedger

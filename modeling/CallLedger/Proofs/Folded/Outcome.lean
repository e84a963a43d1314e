import CallLedger.Proofs.Folded.Ingestion

/-!
# How an ingestion ends

The first line that decides says how an ingestion ends, and the lines before it say what the
ingestion does.  This holds on every thread that is reachable, also in the middle of calls and
while a tail call is pending, and no byte after the line that decides matters.
-/

namespace CallLedger.Folded

theorem length_resolveAll (registry : Registry) (names : List String) :
    (resolveAll registry names).2.length = names.length := by
  induction names generalizing registry with
  | nil => rfl
  | cons name rest ih => exact congrArg (· + 1) (ih _)

namespace State

/-- The ingestion did not stop yet, and its thread, which followed a history when it started,
replayed a path with the frames of some samples. -/
structure Replays (history : ThreadHistory) (state : State) (samples : List Sample) : Prop where
  stoppedAt_eq : state.stats.stoppedAt = none
  thread : ∃ path, path.length = (namesOf samples).length ∧
    state.tracked.thread.Follows (history.replay path)

variable {history : ThreadHistory}

theorem replays_start {thread : Thread} (follows : thread.Follows history) (graph : CallGraph)
    (registry : Registry) : (start registry ⟨thread, graph⟩).Replays history [] where
  stoppedAt_eq := rfl
  thread := ⟨[], rfl, (ThreadHistory.replay_nil history).symm ▸ follows⟩

theorem invariant_replays (inside : history.TailInside) : Invariant (Replays history) where
  note replays _ := ⟨replays.stoppedAt_eq, replays.thread⟩
  apply {state samples} replays sample := by
    rcases state with ⟨registry, ⟨thread, graph⟩, stats, events⟩
    rcases replays with ⟨unstopped, first, first_length, follows⟩
    obtain ⟨left, later, applied, leftFollows⟩ :=
      apply_follows follows (inside.replay first) rfl graph stats events sample.count
    rw [ThreadHistory.replay_replay inside] at leftFollows
    refine ⟨_, applied, unstopped, _, ?_, leftFollows⟩
    rw [namesOf_concat, List.length_append, List.length_append, first_length,
      List.length_map, length_resolveAll]

end State

variable {options : Options} {registry : Registry} {tracked : Tracked} {input : Bytes}

/-- An ingestion goes as far as the first line that decides, and no line after it matters. -/
theorem ingest_of_firstDecision {prior : State} {place : Nat} {decision : Decision}
    (ran : ingest options registry tracked (options.before input) = (prior, .ok ()))
    (first : options.firstDecision? 1 (splitLines input) = some (place, decision)) :
    ingest options registry tracked input = prior.conclude (some (place, decision)) ∧
      ∀ rest, ingest options registry tracked
          (joinLines ((splitLines input).take place) ++ rest) =
        prior.conclude (some (place, decision)) := by
  obtain ⟨line, later, lines_eq, place_eq, undecided, decides⟩ := Options.splitLines_before first
  have decided : ∀ more, State.ingest options 1 (.start registry tracked)
      (splitLines (options.before input) ++ line :: more) =
        prior.conclude (some (place, decision)) := by
    intro more
    rw [State.ingest_append undecided ran, ← place_eq]
    exact State.ingest_of_decision decides more
  constructor
  · rw [ingest, lines_eq]
    exact decided later
  · intro rest
    have taken : (splitLines input).take place = splitLines (options.before input) ++ [line] := by
      rw [lines_eq, place_eq, Nat.add_comm, List.take_length_add_append]
      rfl
    have unbroken : ∀ other ∈ (splitLines input).take place, 10 ∉ other :=
      fun _ listed => not_mem_of_mem_splitLines (List.mem_of_mem_take listed)
    rw [ingest, splitLines_joinLines_append unbroken, taken, List.append_assoc]
    exact decided (splitLines rest)

/-- An ingestion ends the way the first line that decides says, and what it does is what the
lines before that one do. -/
structure Decided (options : Options) (registry : Registry) (tracked : Tracked)
    (input : Bytes) : Prop where
  /-- The lines before the one that decides are the beginning of the input. -/
  begins : options.before input <+: input
  /-- They are ingested to the end if nothing else is there. -/
  before_outcome : (ingest options registry tracked (options.before input)).2 = .ok ()
  before_stoppedAt :
    (ingest options registry tracked (options.before input)).1.stats.stoppedAt = none
  registry_eq : (ingest options registry tracked input).1.registry =
    (ingest options registry tracked (options.before input)).1.registry
  /-- Thread and graph. -/
  tracked_eq : (ingest options registry tracked input).1.tracked =
    (ingest options registry tracked (options.before input)).1.tracked
  outcome_eq : (ingest options registry tracked input).2 =
    match options.firstDecision? 1 (splitLines input) with
    | some (_, .fail fault) => .error fault
    | _ => .ok ()
  stoppedAt_eq : (ingest options registry tracked input).1.stats.stoppedAt =
    match options.firstDecision? 1 (splitLines input) with
    | some (number, .stop) => some number
    | _ => none
  /-- Any bytes may follow the line that decides. -/
  rest_ignored : ∀ number decision,
    options.firstDecision? 1 (splitLines input) = some (number, decision) → ∀ rest,
      ingest options registry tracked (joinLines ((splitLines input).take number) ++ rest) =
        ingest options registry tracked input

/-- **The first line that decides, decides.** -/
theorem ingest_decided {thread : Thread} (reachable : thread.Reachable) (graph : CallGraph)
    (options : Options) (registry : Registry) (input : Bytes) :
    Decided options registry ⟨thread, graph⟩ input := by
  rcases reachable.exists_history with ⟨history, follows, inside⟩
  obtain ⟨prior, replays, ran⟩ := (State.invariant_replays inside).ingest
    (State.replays_start follows graph registry) (splitLines (options.before input))
  rw [options.undecided_before input] at ran
  have before_eq : ingest options registry ⟨thread, graph⟩ (options.before input) =
      (prior, .ok ()) := ran
  have unstopped := replays.stoppedAt_eq
  have concluded : ingest options registry ⟨thread, graph⟩ input =
      prior.conclude (options.firstDecision? 1 (splitLines input)) := by
    cases first : options.firstDecision? 1 (splitLines input) with
    | none => rwa [Options.before_eq_self first] at before_eq
    | some decided => exact (ingest_of_firstDecision before_eq first).1
  constructor
  case begins => exact options.before_isPrefix input
  case before_outcome => rw [before_eq]
  case before_stoppedAt => rw [before_eq, unstopped]
  case registry_eq => rw [concluded, before_eq, State.registry_conclude]
  case tracked_eq => rw [concluded, before_eq, State.tracked_conclude]
  case outcome_eq =>
    rw [concluded]
    rcases options.firstDecision? 1 (splitLines input) with - | ⟨_, - | _⟩ <;> rfl
  case stoppedAt_eq =>
    rw [concluded]
    rcases options.firstDecision? 1 (splitLines input) with - | ⟨_, - | _⟩
    · exact unstopped
    · rfl
    · exact unstopped
  case rest_ignored =>
    intro number decision first rest
    rcases ingest_of_firstDecision before_eq first with ⟨whole, anyRest⟩
    rw [whole]
    exact anyRest rest

/-- A header, a sample, a count that is none, the end of the samples, and a byte that is not
text. -/
def interruptedInput : Bytes :=
  Bytes.ofText "# stacks\n3 a;b\nx c\n\n2 d\n" ++ [255]

/-- A thread inside of a call that the next one replaces. -/
def tailThread : Thread :=
  (Thread.start.after (.enter ⟨1⟩)).after .markTail

theorem reachable_tailThread : tailThread.Reachable :=
  (Thread.Reachable.start.after (.enter ⟨1⟩)).after .markTail

theorem ingest_decided_interruptedInput :
    tailThread.Reachable ∧
      (ingest ⟨true, id⟩ .empty ⟨tailThread, .ofSize 2⟩ interruptedInput).2 =
        .error (.invalidCount ⟨3, "x", .invalidDigit⟩) := by
  have first : Options.firstDecision? ⟨true, id⟩ 1 (splitLines interruptedInput) =
      some (3, .fail (.invalidCount ⟨3, "x", .invalidDigit⟩)) := by
    decide +kernel
  have decided := ingest_decided reachable_tailThread (.ofSize 2) ⟨true, id⟩ .empty
    interruptedInput
  refine ⟨reachable_tailThread, ?_⟩
  rw [decided.outcome_eq, first]

end CallLedger.Folded

import CallLedger.Proofs.Folded.Course
import CallLedger.Proofs.Folded.Outcome

/-!
# Ingestion in pieces

An input can be cut after any line feed and ingested piece by piece on the same registry,
thread and graph.  Every line is read on its own, so the pieces do together what the whole
does.  A later piece differs in two respects: it has no header, and it counts lines, samples
and names from the beginning.  So its account is added to that of the pieces before it, and
the lines that it reports lie further down in the whole.
-/

namespace CallLedger.Folded

/-- The same fault in an input that has some more lines at its beginning. -/
def Fault.after (lines : Nat) : Fault → Fault
  | .invalidCount error => .invalidCount { error with line := lines + error.line }
  | fault => fault

/-- The same verdict in an input that has some more lines at its beginning. -/
def Verdict.after (lines : Nat) : Verdict → Verdict
  | .fail fault => .fail (fault.after lines)
  | verdict => verdict

/-- The account of an ingestion together with that of the lines before it. -/
def Stats.join (earlier : Stats) (lines : Nat) (later : Stats) : Stats where
  lines := earlier.lines + later.lines
  samples := earlier.samples + later.samples
  newBlocks := earlier.newBlocks + later.newBlocks
  stoppedAt := later.stoppedAt.map (lines + ·)

/-- How a later piece of an input is read: it has no header. -/
def Options.continued (options : Options) : Options :=
  { options with skipHeader := false }

/-- After the first line, a line is read the same in every place. -/
theorem Options.read_continued {lines number : Nat} (later : lines + number ≠ 1)
    (options : Options) (line : Bytes) :
    options.read (lines + number) line = (options.continued.read number line).after lines := by
  rw [read, read]
  cases line.toText? with
  | none => rfl
  | some text =>
      simp only [continued, later, decide_false, Bool.false_and, Bool.and_false,
        Bool.false_eq_true, if_false, parseLine_eq]
      by_cases ends : EndsSection text
      · simp only [if_pos ends]
        rfl
      · simp only [if_neg ends]
        cases Decimal.readCount (countField text) <;> rfl

namespace State

/-- A whole ingestion is where the ingestion of a piece is, and has the account of the lines
before the piece in addition. -/
structure Continues (earlier : Stats) (lines : Nat) (piece whole : State) : Prop where
  registry_eq : whole.registry = piece.registry
  tracked_eq : whole.tracked = piece.tracked
  stats_eq : whole.stats = earlier.join lines piece.stats

namespace Continues

variable {earlier : Stats} {lines : Nat} {piece whole : State}

theorem start {state : State} (unstopped : state.stats.stoppedAt = none) (lines : Nat) :
    Continues state.stats lines (.start state.registry state.tracked) state where
  registry_eq := rfl
  tracked_eq := rfl
  stats_eq := by
    rcases state with ⟨registry, tracked, ⟨applied, samples, newBlocks, stoppedAt⟩, events⟩
    cases unstopped
    rw [Stats.join, State.start, Count.add_zero]
    rfl

theorem note (continues : Continues earlier lines piece whole) (pieceEvent wholeEvent : Event) :
    Continues earlier lines (piece.note pieceEvent) (whole.note wholeEvent) :=
  ⟨continues.registry_eq, continues.tracked_eq, continues.stats_eq⟩

/-- A sample does the same to both. -/
theorem apply (continues : Continues earlier lines piece whole) (count : Count)
    (names : List String) :
    Continues earlier lines (piece.apply count names).1 (whole.apply count names).1 ∧
      (whole.apply count names).2 = (piece.apply count names).2 := by
  rcases piece with ⟨registry, tracked, stats, pieceEvents⟩
  rcases whole with ⟨wholeRegistry, wholeTracked, wholeStats, wholeEvents⟩
  rcases continues with ⟨rfl, rfl, stats_eq⟩
  have joined : wholeStats = earlier.join lines stats := stats_eq
  subst joined
  refine ⟨⟨rfl, rfl, ?_⟩, rfl⟩
  simp only [State.apply, Stats.join, Nat.add_assoc, Count.add_assoc]

/-- **A piece goes on as the whole does**, with every line further down. -/
theorem ingest (continues : Continues earlier lines piece whole) (options : Options)
    {number : Nat} (later : 1 < lines + number) (rest : List Bytes) :
    Continues earlier lines (State.ingest options.continued number piece rest).1
        (State.ingest options (lines + number) whole rest).1 ∧
      (State.ingest options (lines + number) whole rest).2 =
        (State.ingest options.continued number piece rest).2.mapError (Fault.after lines) := by
  induction rest generalizing number piece whole with
  | nil => exact ⟨continues, rfl⟩
  | cons line rest ih =>
      have next : 1 < lines + (number + 1) := Nat.lt_succ_of_lt later
      have reading := options.read_continued (Nat.ne_of_gt later) line
      cases reads : options.continued.read number line with
      | skip header =>
          simp only [reads, Verdict.after] at reading
          simp only [State.ingest, reads, reading]
          exact ih (continues.note _ _) next
      | apply count names =>
          simp only [reads, Verdict.after] at reading
          simp only [State.ingest, reads, reading]
          rcases continues.apply count names with ⟨applied, sameOutcome⟩
          rcases pieceNext : piece.apply count names with ⟨pieceAfter, outcome⟩
          rcases wholeNext : whole.apply count names with ⟨wholeAfter, wholeOutcome⟩
          rw [pieceNext, wholeNext] at applied sameOutcome
          cases sameOutcome
          cases outcome with
          | ok _ => exact ih applied next
          | error violation => exact ⟨applied, rfl⟩
      | stop =>
          simp only [reads, Verdict.after] at reading
          simp only [State.ingest, reads, reading]
          refine ⟨⟨continues.registry_eq, continues.tracked_eq, ?_⟩, rfl⟩
          rw [State.note, State.note, continues.stats_eq]
          rfl
      | fail fault =>
          simp only [reads, Verdict.after] at reading
          simp only [State.ingest, reads, reading]
          exact ⟨continues, rfl⟩

end Continues

/-- No line decides if an ingestion succeeds without being stopped. -/
theorem undecided_of_ingest {options : Options} {number : Nat} {state : State}
    {lines : List Bytes} (consumed : (ingest options number state lines).2 = .ok ())
    (unstopped : (ingest options number state lines).1.stats.stoppedAt = none) :
    options.firstDecision? number lines = none := by
  induction lines generalizing number state with
  | nil => rfl
  | cons line rest ih =>
      have decided := options.decision?_eq number line
      cases reads : options.read number line with
      | skip header =>
          simp only [reads] at decided
          simp only [ingest, reads] at consumed unstopped
          simp only [Options.firstDecision?, decided]
          exact ih consumed unstopped
      | apply count names =>
          simp only [reads] at decided
          simp only [ingest, reads] at consumed unstopped
          simp only [Options.firstDecision?, decided]
          rcases applied : state.apply count names with ⟨next, outcome⟩
          simp only [applied] at consumed unstopped
          cases outcome with
          | ok _ => exact ih consumed unstopped
          | error violation => cases consumed
      | stop =>
          simp only [ingest, reads] at unstopped
          cases unstopped
      | fail fault =>
          simp only [ingest, reads] at consumed
          cases consumed

end State

/-- What an ingestion has to be if its input consists of two pieces, the first of which has the
given number of lines, and these are the ingestions of the pieces. -/
structure InPieces (lines : Nat) (first second whole : State × Except Fault Unit) : Prop where
  registry_eq : whole.1.registry = second.1.registry
  /-- Thread and graph. -/
  tracked_eq : whole.1.tracked = second.1.tracked
  lines_eq : whole.1.stats.lines = first.1.stats.lines + second.1.stats.lines
  /-- The sum stops at the limit of counts. -/
  samples_eq : whole.1.stats.samples = first.1.stats.samples + second.1.stats.samples
  newBlocks_eq : whole.1.stats.newBlocks = first.1.stats.newBlocks + second.1.stats.newBlocks
  stoppedAt_eq : whole.1.stats.stoppedAt = second.1.stats.stoppedAt.map (lines + ·)
  outcome_eq : whole.2 = second.2.mapError (Fault.after lines)

/-- **An input may be ingested in pieces.**  If a first piece ends with a line feed and is
consumed to its end, going on with a second piece is the same as ingesting both at once. -/
theorem ingest_inPieces (options : Options) (registry : Registry) (tracked : Tracked)
    {first : Bytes} (ended : first.getLast? = some 10)
    (consumed : (ingest options registry tracked first).2 = .ok ())
    (unstopped : (ingest options registry tracked first).1.stats.stoppedAt = none)
    (second : Bytes) :
    InPieces (first.count 10) (ingest options registry tracked first)
      (ingest options.continued (ingest options registry tracked first).1.registry
        (ingest options registry tracked first).1.tracked second)
      (ingest options registry tracked (first ++ second)) := by
  have undecided := State.undecided_of_ingest consumed unstopped
  rcases ran : ingest options registry tracked first with ⟨state, outcome⟩
  rw [ran] at consumed unstopped
  cases consumed
  have whole_eq : ingest options registry tracked (first ++ second) =
      State.ingest options (first.count 10 + 1) state (splitLines second) := by
    rw [ingest, splitLines_append ended, State.ingest_append undecided ran,
      length_splitLines ended, Nat.add_comm]
  have later : 1 < first.count 10 + 1 :=
    Nat.succ_lt_succ (List.count_pos_iff.mpr (List.mem_of_getLast? ended))
  rcases (State.Continues.start unstopped (first.count 10)).ingest options later
    (splitLines second) with ⟨continues, outcome_eq⟩
  rw [whole_eq]
  constructor
  case registry_eq => exact continues.registry_eq
  case tracked_eq => exact continues.tracked_eq
  case lines_eq => exact congrArg Stats.lines continues.stats_eq
  case samples_eq => exact congrArg Stats.samples continues.stats_eq
  case newBlocks_eq => exact congrArg Stats.newBlocks continues.stats_eq
  case stoppedAt_eq => exact congrArg Stats.stoppedAt continues.stats_eq
  case outcome_eq => exact outcome_eq

/-- A header and a sample. -/
def headedInput : Bytes :=
  .ofText "# stacks\n3 a;b\n"

/-- A sample and a count that is none. -/
def brokenInput : Bytes :=
  .ofText "1 b\nx c\n"

theorem ingest_inPieces_headedInput :
    headedInput.getLast? = some 10 ∧
      (ingest ⟨true, id⟩ .empty ⟨tailThread, .ofSize 2⟩ headedInput).2 = .ok () ∧
      (ingest ⟨true, id⟩ .empty ⟨tailThread, .ofSize 2⟩ headedInput).1.stats.stoppedAt = none ∧
      (ingest ⟨true, id⟩ .empty ⟨tailThread, .ofSize 2⟩ (headedInput ++ brokenInput)).2 =
        .error (.invalidCount ⟨4, "x", .invalidDigit⟩) := by
  have ended : headedInput.getLast? = some 10 := by decide +kernel
  have undecided : Options.firstDecision? ⟨true, id⟩ 1 (splitLines headedInput) = none := by
    decide +kernel
  have fails : Options.firstDecision? (Options.continued ⟨true, id⟩) 1 (splitLines brokenInput) =
      some (2, .fail (.invalidCount ⟨2, "x", .invalidDigit⟩)) := by
    decide +kernel
  obtain ⟨first, proceeds, firstRan⟩ :=
    ingest_concludes reachable_tailThread (.ofSize 2) ⟨true, id⟩ .empty headedInput
  rw [undecided] at firstRan
  obtain ⟨second, _, secondRan⟩ := ingest_concludes proceeds.reachable first.tracked.graph
    (Options.continued ⟨true, id⟩) first.registry brokenInput
  rw [fails] at secondRan
  have consumed :
      (ingest ⟨true, id⟩ .empty ⟨tailThread, .ofSize 2⟩ headedInput).2 = .ok () := by
    rw [firstRan]
    rfl
  have unstopped : (ingest ⟨true, id⟩ .empty ⟨tailThread, .ofSize 2⟩
      headedInput).1.stats.stoppedAt = none := by
    rw [firstRan]
    exact proceeds.stoppedAt_eq
  have whole := (ingest_inPieces ⟨true, id⟩ .empty ⟨tailThread, .ofSize 2⟩ ended consumed
    unstopped brokenInput).outcome_eq
  have lines : headedInput.count 10 = 2 := by decide +kernel
  refine ⟨ended, consumed, unstopped, ?_⟩
  rw [whole, lines, firstRan]
  exact congrArg (fun ran => ran.2.mapError (Fault.after 2)) secondRan

end CallLedger.Folded

import CallLedger.Proofs.Folded.Decision
import CallLedger.Proofs.Folded.Samples

/-!
# Ingestion, line by line

An ingestion applies one sample after the other until a line decides or no line is left.
Every line is read completely before anything is done about it, so a line that decides leaves
registry, thread and graph as the lines before it made them.  Whatever holds at the start and
survives a sample therefore holds at the end, for the samples before the line that decides.
-/

namespace CallLedger.Folded

/-- The samples that are applied: those before the first line that decides. -/
def Options.applied (options : Options) (number : Nat) : List Bytes → List Sample
  | [] => []
  | line :: rest =>
      match options.read number line with
      | .skip _ => options.applied (number + 1) rest
      | .apply count names => ⟨count, names⟩ :: options.applied (number + 1) rest
      | .stop | .fail _ => []

namespace State

/-- An ingestion after its last sample, given what was decided and by which line. -/
def conclude (state : State) : Option (Nat × Decision) → State × Except Fault Unit
  | none => (state, .ok ())
  | some (number, .stop) =>
      ({ state.note (.sectionEnded number) with
        stats := { state.stats with stoppedAt := some number } }, .ok ())
  | some (_, .fail fault) => (state, .error fault)

section Conclude

variable (state : State) (decided : Option (Nat × Decision))

@[simp] theorem registry_conclude : (state.conclude decided).1.registry = state.registry := by
  rcases decided with - | ⟨_, - | _⟩ <;> rfl

@[simp] theorem tracked_conclude : (state.conclude decided).1.tracked = state.tracked := by
  rcases decided with - | ⟨_, - | _⟩ <;> rfl

end Conclude

/-- Applying a sample replays the path of its blocks, whatever the thread was doing. -/
theorem apply_follows {thread : Thread} {history : ThreadHistory}
    (follows : thread.Follows history) (inside : history.TailInside) {registry : Registry}
    {names : List String} {path : List BlockId}
    (resolved : (resolveAll registry names).2.map Prod.fst = path) (graph : CallGraph)
    (stats : Stats) (events : List Event) (count : Count) :
    ∃ left later, apply ⟨registry, ⟨thread, graph⟩, stats, events⟩ count names =
        (⟨(resolveAll registry names).1,
          ⟨left, graph.updateAll ((history.replayed path count).flatMap Activity.requests)⟩,
          { stats with
            lines := stats.lines + 1
            samples := stats.samples + count
            newBlocks :=
              stats.newBlocks + ((resolveAll registry names).2.filter Prod.snd).length },
          later⟩, .ok ()) ∧
      left.Follows (history.replay path) := by
  obtain ⟨left, replayed, leftFollows⟩ := replay_follows follows inside graph path count
  simp only [apply, resolved, replayed]
  exact ⟨left, _, rfl, leftFollows⟩

/-- What holds of an ingestion and the samples applied so far, and goes on to hold. -/
structure Invariant (holds : State → List Sample → Prop) : Prop where
  note : ∀ {state samples}, holds state samples → ∀ event, holds (state.note event) samples
  /-- Every sample is applied, and the thread refuses nothing. -/
  apply : ∀ {state samples}, holds state samples → ∀ sample,
    ∃ next, state.apply sample.count sample.names = (next, .ok ()) ∧
      holds next (samples ++ [sample])

variable {options : Options} {number : Nat} {state : State}

/-- **An invariant holds to the end**, and the first line that decides says how that is. -/
theorem Invariant.ingest {holds : State → List Sample → Prop} (invariant : Invariant holds)
    {samples : List Sample} (now : holds state samples) (lines : List Bytes) :
    ∃ prior, holds prior (samples ++ options.applied number lines) ∧
      State.ingest options number state lines =
        prior.conclude (options.firstDecision? number lines) := by
  induction lines generalizing number state samples with
  | nil =>
      refine ⟨state, ?_, rfl⟩
      rw [Options.applied, List.append_nil]
      exact now
  | cons line rest ih =>
      have decided := options.decision?_eq number line
      cases reads : options.read number line with
      | skip header =>
          simp only [reads] at decided
          simp only [State.ingest, Options.applied, Options.firstDecision?, reads, decided]
          exact ih (invariant.note now _)
      | apply count names =>
          simp only [reads] at decided
          rcases invariant.apply now ⟨count, names⟩ with ⟨next, applied, nextHolds⟩
          simp only [State.ingest, Options.applied, Options.firstDecision?, reads, decided,
            applied]
          rw [List.append_cons]
          exact ih nextHolds
      | stop | fail fault =>
          simp only [reads] at decided
          refine ⟨state, ?_, ?_⟩
          · simpa only [Options.applied, reads, List.append_nil] using now
          · simp only [State.ingest, Options.firstDecision?, reads, decided]
            rfl

/-- Lines that do not decide are ingested before those that follow them. -/
theorem ingest_append {next : State} {first : List Bytes}
    (undecided : options.firstDecision? number first = none)
    (ran : ingest options number state first = (next, .ok ())) (second : List Bytes) :
    ingest options number state (first ++ second) =
      ingest options (number + first.length) next second := by
  induction first generalizing state number with
  | nil =>
      cases ran
      rfl
  | cons line rest ih =>
      rcases Options.undecided_of_cons undecided with ⟨decided, restUndecided⟩
      rw [Options.decision?_eq] at decided
      rw [List.cons_append, List.length_cons, Nat.add_comm rest.length, ← Nat.add_assoc]
      cases reads : options.read number line with
      | skip header =>
          simp only [ingest, reads] at ran ⊢
          exact ih restUndecided ran
      | apply count names =>
          simp only [ingest, reads] at ran ⊢
          rcases applied : state.apply count names with ⟨after, outcome⟩
          cases outcome with
          | ok _ =>
              simp only [applied] at ran ⊢
              exact ih restUndecided ran
          | error violation =>
              simp only [applied] at ran
              cases ran
      | stop | fail fault => simp only [reads, reduceCtorEq] at decided

/-- Lines behind one that decides are not looked at. -/
theorem ingest_append_of_decided {lines : List Bytes}
    (decided : options.firstDecision? number lines ≠ none) (more : List Bytes) :
    ingest options number state (lines ++ more) = ingest options number state lines := by
  induction lines generalizing number state with
  | nil => exact absurd rfl decided
  | cons line rest ih =>
      have own := options.decision?_eq number line
      rw [List.cons_append]
      cases reads : options.read number line with
      | skip header =>
          simp only [reads] at own
          simp only [Options.firstDecision?, own] at decided
          simp only [ingest, reads]
          exact ih decided
      | apply count names =>
          simp only [reads] at own
          simp only [Options.firstDecision?, own] at decided
          simp only [ingest, reads]
          rcases state.apply count names with ⟨next, violation | done⟩
          · rfl
          · exact ih decided
      | stop | fail fault => simp only [ingest, reads]

theorem ingest_of_decision {line : Bytes} {decision : Decision}
    (decided : options.decision? number line = some decision) (later : List Bytes) :
    ingest options number state (line :: later) = state.conclude (some (number, decision)) := by
  rw [Options.decision?_eq] at decided
  cases reads : options.read number line with
  | skip header | apply count names => simp only [reads, reduceCtorEq] at decided
  | stop | fail fault =>
      simp only [reads, Option.some.injEq] at decided
      simp only [ingest, reads, ← decided]
      rfl

end State

end CallLedger.Folded

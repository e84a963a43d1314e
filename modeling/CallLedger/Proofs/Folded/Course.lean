import CallLedger.Proofs.Folded.Ingestion
import CallLedger.Proofs.Thread.Range

/-!
# The course of an ingestion

An ingestion tells its thread nothing but ordinary operations: for every sample it enters the
blocks of a path, lets time pass and returns as often.  So a reachable thread stays reachable,
whatever it was doing before, and everything that holds of operations holds of an ingestion.
None of its returns is refused, and all of them stay in range.
-/

namespace CallLedger

namespace Folded

/-- What a thread is told when a path is replayed. -/
def replayOperations (path : List BlockId) (count : Count) : List Operation :=
  path.map .enter ++ .sample count :: List.replicate path.length .exit

namespace State

theorem applyAll_enter (tracked : Tracked) (path : List BlockId) :
    tracked.applyAll (path.map .enter) = .ok (tracked.enterAll path) := by
  induction path generalizing tracked with
  | nil => rfl
  | cons callee rest ih => exact ih (tracked.enter callee)

theorem applyAll_exit (tracked : Tracked) (count : Nat) :
    tracked.applyAll (List.replicate count .exit) = tracked.exitTimes count := by
  induction count generalizing tracked with
  | zero => rfl
  | succ count ih =>
      rw [List.replicate_succ, Tracked.applyAll, List.foldlM_cons, Tracked.exitTimes]
      simp only [Tracked.apply]
      cases tracked.exit with
      | ok outer => exact ih outer
      | error violation => rfl

/-- A replay is a list of operations. -/
theorem replay_eq (tracked : Tracked) (path : List BlockId) (count : Count) :
    replay tracked path count =
      match tracked.applyAll (replayOperations path count) with
      | .ok left => (left, .ok ())
      | .error violation => ((tracked.enterAll path).sample count, .error violation) := by
  have exits : tracked.applyAll (replayOperations path count) =
      ((tracked.enterAll path).sample count).exitTimes path.length := by
    rw [replayOperations, Tracked.applyAll_append, applyAll_enter, ← applyAll_exit]
    rfl
  rw [exits]
  cases returned : ((tracked.enterAll path).sample count).exitTimes path.length with
  | ok left => simp only [replay, returned]
  | error violation => simp only [replay, returned]

/-- The blocks of a sample's path. -/
def pathOf (state : State) (names : List String) : List BlockId :=
  (resolveAll state.registry names).2.map Prod.fst

/-- What applying a sample does to thread and graph is the replay of its path. -/
theorem replay_pathOf (state : State) (count : Count) (names : List String) :
    replay state.tracked (state.pathOf names) count =
      ((state.apply count names).1.tracked, (state.apply count names).2) :=
  rfl

variable {state : State} {count : Count} {names : List String}

theorem reachable_apply (reachable : state.tracked.thread.Reachable) {next : State}
    (applied : state.apply count names = (next, .ok ())) :
    next.tracked.thread.Reachable := by
  have replayed := replay_pathOf state count names
  rw [applied, replay_eq] at replayed
  cases told : state.tracked.applyAll (replayOperations (state.pathOf names) count) with
  | ok left =>
      simp only [told, Prod.mk.injEq, and_true] at replayed
      exact replayed ▸ Tracked.reachable_applyAll reachable told
  | error violation => simp only [told, Prod.mk.injEq, reduceCtorEq, and_false] at replayed

/-- Every line that has a space is cut at one of its characters, and every sample is replayed
by operations that stay in range. -/
def InRange (options : Options) (number : Nat) (state : State) : List Bytes → Prop
  | [] => True
  | line :: rest =>
      (∀ text, line.toText? = some text → ' ' ∈ trimLineEnds text.toList →
        (countField text).length < (trimLineEnds text.toList).length) ∧
      match options.read number line with
      | .skip header => InRange options (number + 1) (state.note (.headerSkipped header)) rest
      | .apply count names =>
          state.tracked.AllInRange (replayOperations (state.pathOf names) count) ∧
            ∀ next, state.apply count names = (next, .ok ()) →
              InRange options (number + 1) next rest
      | .stop | .fail _ => True

theorem length_countField_lt {text : String} (spaced : ' ' ∈ trimLineEnds text.toList) :
    (countField text).length < (trimLineEnds text.toList).length := by
  rw [countField]
  generalize trimLineEnds text.toList = line at spaced
  have cut := congrArg List.length (List.takeWhile_append_dropWhile (p := (· != ' ')) (l := line))
  have left : line.dropWhile (· != ' ') ≠ [] := by
    intro nothing
    have different := List.dropWhile_eq_nil_iff.mp nothing ' ' spaced
    simp at different
  rw [List.length_append] at cut
  have positive := List.length_pos_iff.mpr left
  omega

/-- **An ingestion stays in range** on every reachable thread. -/
theorem inRange (reachable : state.tracked.thread.Reachable) (options : Options) (number : Nat)
    (lines : List Bytes) : InRange options number state lines := by
  induction lines generalizing number state with
  | nil => trivial
  | cons line rest ih =>
      rw [InRange]
      refine ⟨fun _ _ spaced => length_countField_lt spaced, ?_⟩
      cases options.read number line with
      | skip header =>
          have noted : (state.note (.headerSkipped header)).tracked.thread.Reachable := reachable
          exact ih noted (number + 1)
      | apply count names =>
          refine ⟨Tracked.allInRange reachable _, ?_⟩
          intro next applied
          exact ih (reachable_apply reachable applied) (number + 1)
      | stop | fail fault => trivial

/-- An ingestion that started with a graph has only made requests of it, its thread is
reachable, and no line has stopped it yet. -/
structure Proceeds (graph : CallGraph) (state : State) : Prop where
  reachable : state.tracked.thread.Reachable
  graph_eq : ∃ updates, state.tracked.graph = graph.updateAll updates
  stoppedAt_eq : state.stats.stoppedAt = none

/-- A reachable thread refuses nothing that an ingestion tells it. -/
theorem invariant_proceeds (graph : CallGraph) :
    Invariant fun state _ => state.Proceeds graph where
  note proceeds _ := ⟨proceeds.reachable, proceeds.graph_eq, proceeds.stoppedAt_eq⟩
  apply {state samples} proceeds sample := by
    rcases state with ⟨registry, ⟨thread, current⟩, stats, events⟩
    rcases proceeds with ⟨reachable, ⟨earlier, graph_eq⟩, unstopped⟩
    have now_reachable : thread.Reachable := reachable
    have now_graph : current = graph.updateAll earlier := graph_eq
    rcases now_reachable.exists_history with ⟨history, follows, inside⟩
    obtain ⟨left, later, applied, _⟩ :=
      apply_follows follows inside rfl current stats events sample.count
    refine ⟨_, applied, reachable_apply reachable applied, ?_, unstopped⟩
    exact ⟨_, by rw [now_graph, ← CallGraph.updateAll_append]⟩

end State

/-- An ingestion on a reachable thread ends the way the first line that decides says. -/
theorem ingest_concludes {thread : Thread} (reachable : thread.Reachable) (graph : CallGraph)
    (options : Options) (registry : Registry) (input : Bytes) :
    ∃ prior : State, prior.Proceeds graph ∧ ingest options registry ⟨thread, graph⟩ input =
      prior.conclude (options.firstDecision? 1 (splitLines input)) := by
  have starts : (State.start registry ⟨thread, graph⟩).Proceeds graph :=
    ⟨reachable, ⟨[], rfl⟩, rfl⟩
  exact @State.Invariant.ingest options 1 _ _ (State.invariant_proceeds graph) [] starts
    (splitLines input)

end Folded

end CallLedger

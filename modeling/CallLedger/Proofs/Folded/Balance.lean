import CallLedger.Proofs.Folded.Outcome

/-!
# What an ingestion leaves of a call stack

A sample returns as often as it enters calls, so an ingestion gives the call stack back as it
was.  There is one exception.  If a tail call is pending, the first frame that is entered
takes the place of the current one, and the return from it gives up the caller's frame, too.
-/

namespace CallLedger

theorem Thread.length_stack (thread : Thread) : thread.stack.length = thread.depth := by
  rw [stack, List.length_reverse, List.length_map, depth]

theorem ThreadHistory.stack_exit {history : ThreadHistory} (called : history.below ≠ []) :
    history.exit.stack = history.stack.dropLast := by
  rcases history with ⟨top, below, pending, inherited⟩
  cases below with
  | nil => exact absurd rfl called
  | cons caller rest =>
      have inner_last : (ThreadHistory.mk top (caller :: rest) pending inherited).stack =
          ((caller :: rest).map FrameHistory.block).reverse ++ [top.block] :=
        List.reverse_cons
      rw [inner_last, List.dropLast_concat]
      rfl

namespace Folded

/-- Whether an ingestion enters any call: a sample before the line that decides has a frame. -/
def Options.EntersCalls (options : Options) (input : Bytes) : Prop :=
  ∃ sample ∈ options.applied 1 (splitLines input), sample.names ≠ []

instance (options : Options) (input : Bytes) : Decidable (options.EntersCalls input) :=
  inferInstanceAs (Decidable (∃ sample ∈ options.applied 1 (splitLines input), _))

theorem Options.entersCalls_iff {options : Options} {input : Bytes} :
    options.EntersCalls input ↔ namesOf (options.applied 1 (splitLines input)) ≠ [] := by
  simp [EntersCalls, namesOf]

/-- A thread replays the frames of an input, whatever the outcome. -/
theorem ingest_follows {thread : Thread} {history : ThreadHistory}
    (follows : thread.Follows history) (inside : history.TailInside) (graph : CallGraph)
    (options : Options) (registry : Registry) (input : Bytes) :
    ∃ path, (path ≠ [] ↔ options.EntersCalls input) ∧
      (ingest options registry ⟨thread, graph⟩ input).1.tracked.thread.Follows
        (history.replay path) := by
  obtain ⟨prior, replays, ran⟩ := (State.invariant_replays inside).ingest
    (State.replays_start follows graph registry) (splitLines input)
  rcases replays.thread with ⟨path, length_eq, priorFollows⟩
  refine ⟨path, ?_, ?_⟩
  · rw [Options.entersCalls_iff, ← List.length_pos_iff, length_eq, List.length_pos_iff]
    rfl
  · rw [ingest, ran, State.tracked_conclude]
    exact priorFollows

/-- **An ingestion gives the call stack back**, also if it fails, unless it enters a call while
a tail call is pending: then the innermost frame is gone. -/
theorem ingest_stack {thread : Thread} (reachable : thread.Reachable) (graph : CallGraph)
    (options : Options) (registry : Registry) (input : Bytes) :
    (ingest options registry ⟨thread, graph⟩ input).1.tracked.thread.stack =
        (if thread.tailPending = true ∧ options.EntersCalls input then thread.stack.dropLast
          else thread.stack) ∧
      (ingest options registry ⟨thread, graph⟩ input).1.tracked.thread.depth =
        (if thread.tailPending = true ∧ options.EntersCalls input then thread.depth - 1
          else thread.depth) := by
  rcases reachable.exists_history with ⟨history, follows, inside⟩
  obtain ⟨path, enters, leftFollows⟩ :=
    ingest_follows follows inside graph options registry input
  have restored : (ingest options registry ⟨thread, graph⟩ input).1.tracked.thread.stack =
      if thread.tailPending = true ∧ options.EntersCalls input then thread.stack.dropLast
        else thread.stack := by
    rw [leftFollows.stack_eq, follows.tailPending_eq, follows.stack_eq, ThreadHistory.replay]
    simp only [enters]
    split
    next used => exact ThreadHistory.stack_exit (inside used.1)
    next => rfl
  refine ⟨restored, ?_⟩
  rw [← Thread.length_stack, restored]
  split
  · rw [List.length_dropLast, Thread.length_stack]
  · exact Thread.length_stack thread

/-- A sample, and a line whose count is none. -/
def unreadableInput : Bytes :=
  .ofText "1 a\nx a\n"

theorem follows_tailThread : tailThread.Follows
    ((ThreadHistory.start.after (.enter ⟨1⟩)).after .markTail) :=
  (Thread.follows_start.after (.enter ⟨1⟩)).after .markTail

theorem entersCalls_unreadableInput : Options.EntersCalls ⟨false, id⟩ unreadableInput := by
  decide +kernel

theorem ingest_stack_unreadableInput :
    tailThread.Reachable ∧ tailThread.stack = [.root, ⟨1⟩] ∧
      (ingest ⟨false, id⟩ .empty ⟨tailThread, .ofSize 2⟩ unreadableInput).1.tracked.thread.stack =
        [.root] := by
  have pending : tailThread.tailPending = true := follows_tailThread.tailPending_eq
  have stack_eq : tailThread.stack = [.root, ⟨1⟩] := follows_tailThread.stack_eq
  have left := ingest_stack reachable_tailThread (.ofSize 2) ⟨false, id⟩ .empty unreadableInput
  rw [if_pos ⟨pending, entersCalls_unreadableInput⟩, stack_eq] at left
  exact ⟨reachable_tailThread, stack_eq, left.1⟩

/-- A pending tail call costs the caller its frame, here where the ingestion fails. -/
theorem ingest_loses_frame :
    ¬ ∀ (thread : Thread) (graph : CallGraph) (options : Options) (registry : Registry)
      (input : Bytes), thread.Reachable →
        (ingest options registry ⟨thread, graph⟩ input).1.tracked.thread.depth = thread.depth ∧
          (ingest options registry ⟨thread, graph⟩ input).1.tracked.thread.stack =
            thread.stack := by
  intro balanced
  obtain ⟨path, entered, leftFollows⟩ :=
    ingest_follows follows_tailThread (fun _ => List.cons_ne_nil _ _) (.ofSize 2) ⟨false, id⟩ .empty
      unreadableInput
  have depth_eq := (balanced tailThread (.ofSize 2) ⟨false, id⟩ .empty unreadableInput
    reachable_tailThread).1
  rw [ThreadHistory.replay_of_pending rfl (entered.mpr entersCalls_unreadableInput)]
    at leftFollows
  rw [leftFollows.depth_eq, follows_tailThread.depth_eq] at depth_eq
  exact absurd depth_eq (by decide)

end Folded

end CallLedger

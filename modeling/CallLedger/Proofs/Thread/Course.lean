import CallLedger.Thread
import CallLedger.Proofs.Graph.Totals

/-!
# The course of a thread

An operation reads the thread alone: what it does to the thread and what it asks of the
graph do not depend on the graph, so a thread takes the same course whatever other threads
do in between.  The operations of a tracked thread come apart into the two.
-/

namespace CallLedger

namespace Thread

theorem markTail_eq (thread : Thread) :
    thread.markTail =
      if thread.below = [] then .error .tailCallAtRoot
      else .ok { thread with tailPending := true } := by
  unfold markTail
  split
  next outside => rw [if_pos outside]
  next inside => rw [if_neg (by simp [inside])]

theorem exit_refused_iff {thread : Thread} :
    (∃ violation, thread.exit = .error violation) ↔ thread.below = [] := by
  unfold exit
  split
  next outside => simp [outside]
  next inside => simp [inside]

/-- What an operation does to the thread. -/
def apply (thread : Thread) : Operation → Except Violation Thread
  | .enter callee => .ok (thread.enter callee)
  | .markTail => thread.markTail
  | .tailCall callee => thread.markTail.map (·.enter callee)
  | .exit => thread.exit
  | .sample _ => .ok thread

/-- The thread after an operation; a refused operation changes nothing. -/
def after (thread : Thread) (operation : Operation) : Thread :=
  match thread.apply operation with
  | .ok next => next
  | .error _ => thread

theorem after_of_refused {thread : Thread} {operation : Operation} {violation : Violation}
    (refused : thread.apply operation = .error violation) : thread.after operation = thread := by
  rw [after, refused]

theorem after_markTail (thread : Thread) :
    thread.after .markTail =
      if thread.below = [] then thread else { thread with tailPending := true } := by
  rw [after, apply, markTail_eq]
  by_cases outside : thread.below = []
  · simp only [if_pos outside]
  · simp only [if_neg outside]

theorem after_tailCall (thread : Thread) (callee : BlockId) :
    thread.after (.tailCall callee) =
      if thread.below = [] then thread
      else Thread.enter { thread with tailPending := true } callee := by
  rw [after, apply, markTail_eq]
  by_cases outside : thread.below = []
  · simp only [if_pos outside]
    rfl
  · simp only [if_neg outside]
    rfl

theorem after_exit {thread next : Thread} (returned : thread.exit = .ok next) :
    thread.after .exit = next := by
  rw [after, apply, returned]

/-- What an operation asks of the graph.  A refused operation asks for nothing. -/
def requests (thread : Thread) : Operation → List GraphUpdate
  | .enter callee => [.record (thread.edgeTo callee) 1 0]
  | .tailCall callee =>
      if thread.below = [] then [] else [.record (thread.edgeTo callee) 1 0]
  | .sample time =>
      if thread.active.toList = [] then
        [.unattributed time]
      else
        thread.active.toList.map fun edge => .record edge 0 time
  | .markTail | .exit => []

theorem requests_of_refused {thread : Thread} {operation : Operation} {violation : Violation}
    (refused : thread.apply operation = .error violation) : thread.requests operation = [] := by
  cases operation with
  | enter callee => cases refused
  | markTail | exit => rfl
  | tailCall callee =>
      rw [apply, markTail_eq] at refused
      split at refused
      next outside => rw [requests, if_pos outside]
      next => cases refused
  | sample time => cases refused

end Thread

namespace Tracked

theorem recordAll_eq (graph : CallGraph) (edges : Array Edge) (count time : Count) :
    graph.recordAll edges count time =
      graph.updateAll (edges.toList.map fun edge => .record edge count time) := by
  rw [CallGraph.recordAll, ← Array.foldl_toList, CallGraph.updateAll, List.foldl_map]
  rfl

/-- A tracked thread runs its course and makes its requests. -/
theorem apply_eq (thread : Thread) (graph : CallGraph) (operation : Operation) :
    Tracked.apply ⟨thread, graph⟩ operation =
      (thread.apply operation).map fun next =>
        ⟨next, graph.updateAll (thread.requests operation)⟩ := by
  cases operation with
  | enter callee => rfl
  | markTail => rfl
  | tailCall callee =>
      simp only [Tracked.apply, Thread.apply, Thread.requests, Thread.markTail_eq]
      split <;> rfl
  | exit => rfl
  | sample time =>
      simp only [Tracked.apply, Tracked.sample, Thread.apply, Thread.requests, recordAll_eq,
        Array.isEmpty_iff, Array.toList_eq_nil_iff]
      split <;> rfl

theorem sample_eq (thread : Thread) (graph : CallGraph) (time : Count) :
    Tracked.sample ⟨thread, graph⟩ time =
      ⟨thread, graph.updateAll (thread.requests (.sample time))⟩ :=
  Except.ok.inj (apply_eq thread graph (.sample time))

end Tracked

end CallLedger

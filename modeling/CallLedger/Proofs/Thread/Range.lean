import CallLedger.Proofs.Thread.Reachable

/-!
# Operations stay in range

An operation looks at the innermost frame, records calls in the row of their caller, and a
return takes the edges of its frame from those that are active.  Nothing checks that the frame,
the row and the edges are there.  On a thread that operations and forks made of a fresh one they
always are, whatever the graph is.
-/

namespace CallLedger

namespace CallGraph

/-- When an edge is recorded, the row of its caller is one of the rows that there are by
then. -/
def RecordInRange (graph : CallGraph) (edge : Edge) : Prop :=
  edge.caller.index <
    (graph.ensureRow ⟨max edge.caller.index edge.callee.index⟩).size

/-- So it is when time is added to several edges in turn. -/
def ChargeInRange (graph : CallGraph) (time : Count) : List Edge → Prop
  | [] => True
  | edge :: rest =>
      graph.RecordInRange edge ∧ (graph.record edge 0 time).ChargeInRange time rest

theorem recordInRange (graph : CallGraph) (edge : Edge) : graph.RecordInRange edge := by
  rw [RecordInRange, size_ensureRow]
  have caller_le := Nat.le_max_left edge.caller.index edge.callee.index
  exact Nat.lt_of_lt_of_le (Nat.lt_succ_of_le caller_le) (Nat.le_max_right ..)

theorem chargeInRange (graph : CallGraph) (time : Count) (edges : List Edge) :
    graph.ChargeInRange time edges := by
  induction edges generalizing graph with
  | nil => trivial
  | cons edge rest ih => exact ⟨graph.recordInRange edge, ih _⟩

end CallGraph

namespace Thread

/-- The edges that end with the innermost frame are among the active ones. -/
theorem Reachable.ends_le {thread : Thread} (reachable : thread.Reachable) :
    thread.top.ends ≤ thread.active.size := by
  rcases reachable.exists_history with ⟨history, follows, _⟩
  have active_length := congrArg List.length follows.active_eq
  rw [Array.length_toList] at active_length
  cases follows.frames with
  | cons _ ends_eq _ =>
      rw [active_length]
      exact Nat.le.intro ((Nat.add_comm _ _).trans ends_eq)

end Thread

namespace Tracked

/-- Every position that an operation looks at exists, and no difference that it takes is below
zero. -/
def InRange (tracked : Tracked) : Operation → Prop
  | .enter callee | .tailCall callee =>
      0 < tracked.thread.depth ∧
        tracked.graph.RecordInRange (tracked.thread.edgeTo callee) ∧
        0 < (tracked.thread.push callee).depth
  | .markTail => True
  | .exit => tracked.thread.below ≠ [] →
      tracked.thread.top.ends ≤ tracked.thread.active.size
  | .sample time => tracked.graph.ChargeInRange time tracked.thread.active.toList

/-- So it is for several operations, as long as none is refused. -/
def AllInRange : Tracked → List Operation → Prop
  | _, [] => True
  | tracked, operation :: rest =>
      tracked.InRange operation ∧
        ∀ next, tracked.apply operation = .ok next → next.AllInRange rest

/-- Carry out operations one after the other. -/
def applyAll (tracked : Tracked) (operations : List Operation) : Except Violation Tracked :=
  operations.foldlM apply tracked

theorem applyAll_append (tracked : Tracked) (first second : List Operation) :
    tracked.applyAll (first ++ second) = tracked.applyAll first >>= (applyAll · second) :=
  List.foldlM_append

variable {tracked next : Tracked}

theorem reachable_apply (reachable : tracked.thread.Reachable) {operation : Operation}
    (applied : tracked.apply operation = .ok next) : next.thread.Reachable := by
  rcases tracked with ⟨thread, graph⟩
  rw [apply_eq] at applied
  cases moved : thread.apply operation with
  | error violation =>
      rw [moved] at applied
      cases applied
  | ok after =>
      rw [moved] at applied
      cases applied
      have after_eq : thread.after operation = after := by rw [Thread.after, moved]
      exact after_eq ▸ reachable.after operation

theorem reachable_applyAll (reachable : tracked.thread.Reachable)
    {operations : List Operation} (applied : tracked.applyAll operations = .ok next) :
    next.thread.Reachable := by
  induction operations generalizing tracked with
  | nil =>
      cases applied
      exact reachable
  | cons operation rest ih =>
      rw [applyAll, List.foldlM_cons] at applied
      cases first : tracked.apply operation with
      | error violation =>
          rw [first] at applied
          cases applied
      | ok middle =>
          rw [first] at applied
          exact ih (reachable_apply reachable first) applied

theorem inRange (reachable : tracked.thread.Reachable) (operation : Operation) :
    tracked.InRange operation := by
  cases operation with
  | enter callee | tailCall callee =>
      exact ⟨Nat.succ_pos _, tracked.graph.recordInRange _, Nat.succ_pos _⟩
  | markTail => trivial
  | exit => exact fun _ => reachable.ends_le
  | sample time => exact tracked.graph.chargeInRange time _

/-- **Operations stay in range** on every reachable thread. -/
theorem allInRange (reachable : tracked.thread.Reachable) (operations : List Operation) :
    tracked.AllInRange operations := by
  induction operations generalizing tracked with
  | nil => trivial
  | cons operation rest ih =>
      refine ⟨inRange reachable operation, ?_⟩
      intro after applied
      exact ih (reachable_apply reachable applied)

end Tracked

end CallLedger

import CallLedger.Proofs.Run.Script
import CallLedger.Proofs.Thread.Bracket

/-!
# Brackets in a run

While a thread is inside of a bracket, other threads may run, also those that it forks there.
Its own operations alone say where it is afterwards: where it was before, as far as anybody can
tell.  Whatever is done from there on, with the thread or with threads that it forks, is seen to
do the same and asks the same of the graph as if the bracket had not been.
-/

namespace CallLedger

open Session (ThreadId)

/-- What a thread is told by a step, if it is told anything. -/
def RunStep.operation? (id : ThreadId) : RunStep → Option Operation
  | operate other operation => if other = id then some operation else none
  | start | fork _ => none

/-- A thread's own operations among the steps of a run. -/
def RunStep.operationsOf (id : ThreadId) (steps : List RunStep) : List Operation :=
  steps.filterMap (operation? id)

namespace Session

variable {session : Session} {id : ThreadId} {thread : Thread}

/-- A step changes a thread only by telling it something. -/
theorem thread?_perform (alive : session.thread? id = some thread) (step : RunStep) :
    (session.perform step).thread? id =
      some (thread.afterAll (step.operation? id).toList) := by
  have inside := Nat.ne_of_lt (lt_size_of_thread? alive)
  cases step with
  | start =>
      rw [perform_start, thread?_addThread, if_neg inside]
      exact alive
  | fork other =>
      cases forked : session.thread? other with
      | none =>
          rw [perform_fork_absent forked]
          exact alive
      | some parent =>
          rw [perform_fork forked, thread?_addThread, if_neg inside]
          exact alive
  | operate other operation =>
      rw [RunStep.operation?]
      by_cases own : other = id
      · subst own
        rw [(perform_operate alive operation).2.2, if_pos rfl, if_pos rfl]
        rfl
      · rw [if_neg own]
        cases told : session.thread? other with
        | none =>
            rw [perform_operate_absent told]
            exact alive
        | some active =>
            rw [(perform_operate told operation).2.2, if_neg (Ne.symm own)]
            exact alive

/-- A run takes a thread where its own operations take it. -/
theorem thread?_performAll (alive : session.thread? id = some thread) (steps : List RunStep) :
    (session.performAll steps).thread? id =
      some (thread.afterAll (RunStep.operationsOf id steps)) := by
  induction steps generalizing session thread with
  | nil => exact alive
  | cons step rest ih =>
      have moved := ih (thread?_perform alive step)
      have operations_eq : RunStep.operationsOf id (step :: rest) =
          (step.operation? id).toList ++ RunStep.operationsOf id rest := by
        rw [RunStep.operationsOf, List.filterMap_cons]
        cases step.operation? id <;> rfl
      rw [operations_eq, Thread.afterAll, List.foldl_append]
      exact moved

end Session

section CommonHistory

variable {first second : Thread} {history : ThreadHistory}
  (firstFollows : first.Follows history) (secondFollows : second.Follows history)

include firstFollows secondFollows

theorem Thread.Follows.moment_eq (refused : Option Session.Refusal) :
    first.moment refused = second.moment refused := by
  rw [Thread.moment, Thread.moment, firstFollows.stack_eq, secondFollows.stack_eq,
    firstFollows.current_eq, secondFollows.current_eq]

theorem Thread.Follows.refusal_eq (operation : Operation) :
    first.refusal operation = second.refusal operation := by
  rw [Thread.refusal, Thread.refusal]
  rcases firstFollows.apply_cases secondFollows operation with
    ⟨violation, firstRefuses, secondRefuses⟩ | ⟨_, _, firstApplied, secondApplied, _, _⟩
  · rw [firstRefuses, secondRefuses]
  · rw [firstApplied, secondApplied]

namespace Script

/-- Scripts have the same stories on threads that follow one history. -/
theorem stories_eq_of_follows (script : Script) (story : Story) (forks : Nat) :
    script.stories first story forks = script.stories second story forks := by
  induction script generalizing first second history story forks with
  | done => rfl
  | operate operation rest ih =>
      have firstAfter := firstFollows.after operation
      have secondAfter := secondFollows.after operation
      simp only [stories]
      rw [firstAfter.moment_eq secondAfter, firstFollows.refusal_eq secondFollows]
      exact ih firstAfter secondAfter _ _
  | fork child rest childIH restIH =>
      simp only [stories]
      rw [firstFollows.moment_eq secondFollows,
        firstFollows.fork.moment_eq secondFollows.fork,
        restIH firstFollows secondFollows, childIH firstFollows.fork secondFollows.fork]

/-- They ask the same of the graph. -/
theorem requests_eq_of_follows (script : Script) :
    script.requests first = script.requests second := by
  induction script generalizing first second history with
  | done => rfl
  | operate operation rest ih =>
      rw [requests, requests, firstFollows.requests_eq, secondFollows.requests_eq,
        ih (firstFollows.after operation) (secondFollows.after operation)]
  | fork child rest childIH restIH =>
      rw [requests, requests, restIH firstFollows secondFollows,
        childIH firstFollows.fork secondFollows.fork]

end Script

end CommonHistory

/-- A thread is where it was before, and the difference that is left in its table of positions
cannot be told. -/
structure Thread.Restored (before after : Thread) : Prop where
  /-- The blocks on the stack, each with the number of active edges that end with it. -/
  frames_eq : after.frames = before.frames
  active_eq : after.active = before.active
  tailPending_eq : after.tailPending = before.tailPending
  inherited_eq : after.inherited = before.inherited
  /-- Whatever the thread does next, it is seen to do the same, refusals included, and so are
  the threads that it forks. -/
  stories_eq : ∀ (further : Script) (story : Story) (forks : Nat),
    further.stories after story forks = further.stories before story forks
  /-- They ask the same of the graph: the same edges, by the same amounts. -/
  requests_eq : ∀ further : Script, further.requests after = further.requests before
  /-- Operations on any graph end alike, up to the table of positions. -/
  outcome_eq : ∀ (graph : CallGraph) (operations : List Operation),
    (Tracked.applyAll ⟨after, graph⟩ operations).map Tracked.bare =
      (Tracked.applyAll ⟨before, graph⟩ operations).map Tracked.bare

theorem Thread.Follows.restored {before after : Thread} {history : ThreadHistory}
    (beforeFollows : before.Follows history) (afterFollows : after.Follows history) :
    before.Restored after where
  frames_eq := afterFollows.frames.frames_eq beforeFollows.frames
  active_eq := Array.toList_inj.mp (afterFollows.active_eq.trans beforeFollows.active_eq.symm)
  tailPending_eq := afterFollows.tailPending_eq.trans beforeFollows.tailPending_eq.symm
  inherited_eq := afterFollows.inherited_eq.trans beforeFollows.inherited_eq.symm
  stories_eq := Script.stories_eq_of_follows afterFollows beforeFollows
  requests_eq := Script.requests_eq_of_follows afterFollows beforeFollows
  outcome_eq := Tracked.applyAll_bare afterFollows beforeFollows

/-- **A bracket gives the thread back.**  If the operations of a thread in some run are one call
with everything up to the return from it, nobody can tell afterwards that they were. -/
theorem Session.performAll_restores {session : Session} {id : ThreadId} {thread : Thread}
    (alive : session.thread? id = some thread) (reachable : thread.Reachable)
    (settled : thread.tailPending = false) {steps : List RunStep}
    (brackets : thread.Brackets (RunStep.operationsOf id steps)) :
    ∃ after, (session.performAll steps).thread? id = some after ∧ thread.Restored after := by
  rcases reachable.exists_history with ⟨history, follows, _⟩
  exact ⟨_, thread?_performAll alive steps, follows.restored (brackets.follows follows settled)⟩

/-- A thread inside of a call. -/
def calledThread : Thread :=
  Thread.start.after (.enter ⟨1⟩)

/-- The session of that thread. -/
def calledSession : Session :=
  (Session.vacant .empty (.ofSize 3)).performAll [.start, .operate 0 (.enter ⟨1⟩)]

/-- A bracket whose outermost call is replaced by one of a block that is running already, and
that one calls again what runs already.  A tail call that is pending there is given up.  A
thread that is forked in between leaves the bracket on its own. -/
def winding : List RunStep :=
  [.operate 0 (.enter ⟨2⟩), .fork 0, .operate 0 (.tailCall ⟨1⟩), .operate 1 .exit,
    .operate 0 (.enter ⟨2⟩), .operate 0 .markTail, .operate 0 .exit, .operate 1 (.sample 3),
    .operate 0 (.sample 5), .operate 0 .exit]

theorem performAll_restores_winding :
    calledSession.thread? 0 = some calledThread ∧ calledThread.Reachable ∧
      calledThread.tailPending = false ∧
      calledThread.Brackets (RunStep.operationsOf 0 winding) ∧
      ∃ after, (calledSession.performAll winding).thread? 0 = some after ∧
        calledThread.Restored after ∧
        after.slots[Edge.mk ⟨2⟩ ⟨1⟩]? ≠ calledThread.slots[Edge.mk ⟨2⟩ ⟨1⟩]? := by
  have started : ((Session.vacant .empty (.ofSize 3)).perform .start).thread? 0 =
      some Thread.start := rfl
  have alive : calledSession.thread? 0 = some calledThread :=
    Session.thread?_performAll started [.operate 0 (.enter ⟨1⟩)]
  have reachable : calledThread.Reachable := .after .start _
  have settled : calledThread.tailPending = false := by cbv
  have brackets : calledThread.Brackets (RunStep.operationsOf 0 winding) := by
    refine ⟨?_, ?_, ?_, ?_, ?_, rfl, ?_⟩
    all_goals cbv
  obtain ⟨after, left, restored⟩ :=
    Session.performAll_restores alive reachable settled brackets
  refine ⟨alive, reachable, settled, brackets, after, left, restored, ?_⟩
  rw [Session.thread?_performAll alive] at left
  cases left
  have stale : (calledThread.afterAll (RunStep.operationsOf 0 winding)).slots[
      Edge.mk ⟨2⟩ ⟨1⟩]? = some 2 := by cbv
  have unknown : calledThread.slots[Edge.mk ⟨2⟩ ⟨1⟩]? = none := by cbv
  rw [stale, unknown]
  exact Option.some_ne_none 2

end CallLedger

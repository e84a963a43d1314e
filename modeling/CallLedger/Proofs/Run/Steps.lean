import CallLedger.Session
import CallLedger.Proofs.Thread.Course

/-!
# Steps of a run

A run is what the threads of one session do: threads are started and forked, and each
carries out operations.  The lemmas say of every step what it does to the graph and to each
of the threads; nothing later has to look into a session.
-/

namespace CallLedger

open Session (ThreadId)

/-- What can happen in a run. -/
inductive RunStep where
  | start
  | fork (thread : ThreadId)
  | operate (thread : ThreadId) (operation : Operation)

/-- The command that a session receives. -/
def RunStep.command : RunStep → Session.Command
  | start => .startThread
  | fork id => .fork id
  | operate id operation => .operate id operation

/-- The steps of a run, each with the state that it meets. -/
def RunStep.moments {State : Type} (perform : State → RunStep → State) (state : State) :
    List RunStep → List (State × RunStep)
  | [] => []
  | step :: rest => (state, step) :: moments perform (perform state step) rest

theorem RunStep.moments_concat {State : Type} (perform : State → RunStep → State)
    (state : State) (steps : List RunStep) (last : RunStep) :
    moments perform state (steps ++ [last]) =
      moments perform state steps ++ [(steps.foldl perform state, last)] := by
  induction steps generalizing state with
  | nil => rfl
  | cons step rest ih => exact congrArg (_ :: ·) (ih (perform state step))

namespace Session

/-- A session in which no thread was started yet. -/
def vacant (registry : Registry) (graph : CallGraph) : Session where
  registry := registry
  graph := graph
  threads := #[]
  profile := none

/-- The session after a step. -/
def perform (session : Session) (step : RunStep) : Session :=
  (session.step step.command).1

/-- The session after several steps. -/
def performAll (session : Session) (steps : List RunStep) : Session :=
  steps.foldl perform session

@[simp] theorem performAll_concat (session : Session) (steps : List RunStep) (step : RunStep) :
    session.performAll (steps ++ [step]) = (session.performAll steps).perform step := by
  simp [performAll]

variable {session : Session} {id : ThreadId} {thread : Thread}

theorem lt_size_of_thread? (alive : session.thread? id = some thread) :
    id < session.threads.size := by
  apply Nat.lt_of_not_le
  intro outside
  rw [thread?, Array.getElem?_eq_none outside] at alive
  cases alive

theorem thread?_of_size_le (outside : session.threads.size ≤ id) :
    session.thread? id = none := by
  rw [thread?, Array.getElem?_eq_none outside]
  rfl

theorem thread?_addThread (session : Session) (thread : Thread) (id : ThreadId) :
    (session.addThread thread).1.thread? id =
      if id = session.threads.size then some thread else session.thread? id := by
  rw [addThread, thread?, Array.getElem?_push]
  split <;> rfl

@[simp] theorem size_addThread (session : Session) (thread : Thread) :
    (session.addThread thread).1.threads.size = session.threads.size + 1 := by
  simp [addThread]

theorem perform_start (session : Session) :
    session.perform .start = (session.addThread .start).1 := rfl

theorem step_fork (alive : session.thread? id = some thread) :
    session.step (.fork id) = session.addThread thread.fork := by
  rw [step, withThread, alive]

theorem perform_fork (alive : session.thread? id = some thread) :
    session.perform (.fork id) = (session.addThread thread.fork).1 := by
  rw [perform, RunStep.command, step_fork alive]

theorem perform_fork_absent (absent : session.thread? id = none) :
    session.perform (.fork id) = session := by
  rw [perform, RunStep.command, step, withThread, absent]

/-- What a session makes of an operation of a thread that is alive. -/
theorem step_operate (alive : session.thread? id = some thread) (operation : Operation) :
    session.step (.operate id operation) =
      match thread.apply operation with
      | .ok next =>
          (session.putTracked id ⟨next, session.graph.updateAll (thread.requests operation)⟩,
            .ok (.threadState next.depth next.current))
      | .error violation => (session, .error (.violated violation)) := by
  rw [step, operate, withThread, alive]
  simp only [Tracked.apply_eq]
  cases thread.apply operation <;> rfl

theorem thread?_putTracked (alive : session.thread? id = some thread) (tracked : Tracked)
    (other : ThreadId) :
    (session.putTracked id tracked).thread? other =
      if other = id then some tracked.thread else session.thread? other := by
  have inside := lt_size_of_thread? alive
  rw [putTracked, thread?, Array.getElem?_modify]
  by_cases same : other = id
  · subst same
    simp [inside]
  · rw [if_neg same, if_neg (Ne.symm same)]
    rfl

theorem perform_operate_absent (absent : session.thread? id = none) (operation : Operation) :
    session.perform (.operate id operation) = session := by
  rw [perform, RunStep.command, step, operate, withThread, absent]

/-- An operation moves its own thread along and makes its requests, whatever the graph and
the other threads are. -/
theorem perform_operate (alive : session.thread? id = some thread) (operation : Operation) :
    (session.perform (.operate id operation)).graph =
        session.graph.updateAll (thread.requests operation) ∧
      (session.perform (.operate id operation)).threads.size = session.threads.size ∧
      ∀ other, (session.perform (.operate id operation)).thread? other =
        if other = id then some (thread.after operation) else session.thread? other := by
  have stepped := step_operate alive operation
  cases applied : thread.apply operation with
  | ok next =>
      rw [applied] at stepped
      rw [perform, RunStep.command, stepped, Thread.after, applied]
      refine ⟨rfl, by simp [putTracked], fun other => ?_⟩
      exact thread?_putTracked alive _ other
  | error violation =>
      rw [applied] at stepped
      rw [perform, RunStep.command, stepped, Thread.requests_of_refused applied,
        Thread.after_of_refused applied]
      refine ⟨rfl, rfl, fun other => ?_⟩
      by_cases same : other = id
      · rw [if_pos same, same, alive]
      · rw [if_neg same]

end Session

end CallLedger

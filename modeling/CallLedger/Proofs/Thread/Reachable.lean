import CallLedger.Proofs.Thread.History

/-!
# Reachable threads

Every thread comes from a fresh one by operations and forks.  Whatever they were, the thread
follows some history, and a tail call is pending only inside of a call: outside there is
nothing that the next call could replace.
-/

namespace CallLedger

namespace ThreadHistory

/-- A tail call is pending only inside of a call. -/
def TailInside (history : ThreadHistory) : Prop :=
  history.tailPending = true → history.below ≠ []

variable {history : ThreadHistory}

theorem tailPending_exit (called : history.below ≠ []) : history.exit.tailPending = false := by
  rw [exit]
  cases below : history.below with
  | nil => exact absurd below called
  | cons caller rest => rfl

namespace TailInside

theorem of_settled (settled : history.tailPending = false) : history.TailInside := by
  intro pending
  rw [settled] at pending
  cases pending

theorem after (inside : history.TailInside) (operation : Operation) :
    (history.after operation).TailInside := by
  cases operation with
  | enter callee => exact of_settled (tailPending_enter history callee)
  | markTail =>
      rw [ThreadHistory.after]
      split
      next => exact inside
      next called => exact fun _ => called
  | tailCall callee =>
      rw [ThreadHistory.after]
      split
      next => exact inside
      next => exact of_settled (tailPending_enter _ callee)
  | exit =>
      by_cases outside : history.below = []
      · rw [ThreadHistory.after, ThreadHistory.exit, outside]
        exact inside
      · exact of_settled (tailPending_exit outside)
  | sample time => exact inside

end TailInside

end ThreadHistory

namespace Thread

/-- A thread that operations and forks made of a fresh one. -/
inductive Reachable : Thread → Prop where
  | start : Reachable .start
  | fork {thread : Thread} (earlier : Reachable thread) : Reachable thread.fork
  | after {thread : Thread} (earlier : Reachable thread) (operation : Operation) :
      Reachable (thread.after operation)

theorem Reachable.exists_history {thread : Thread} (reachable : thread.Reachable) :
    ∃ history, thread.Follows history ∧ history.TailInside := by
  induction reachable with
  | start => exact ⟨.start, follows_start, .of_settled rfl⟩
  | fork _ ih =>
      rcases ih with ⟨history, follows, _⟩
      exact ⟨history.fork, follows.fork, .of_settled rfl⟩
  | after _ operation ih =>
      rcases ih with ⟨history, follows, inside⟩
      exact ⟨history.after operation, follows.after operation, inside.after operation⟩

end Thread

end CallLedger

import CallLedger.Proofs.Thread.Activity
import CallLedger.Proofs.Thread.Range

/-!
# Brackets

A bracket is a call with everything that a thread does until it returns from it.  In between
nothing under the call is touched, and the return takes away all that was put on top, however
many calls took each other's place there, so the history after a bracket is the history before
it.  The thread is not what it was: its table of positions has got new entries.  But what a
thread does can be told from the history that it follows, so the entries make no difference.
-/

namespace CallLedger

namespace ThreadHistory

/-- The frames of an outer history lie untouched under the innermost frame. -/
structure EnclosedBy (outer history : ThreadHistory) : Prop where
  frames_below : outer.frames <:+ history.below
  inherited_eq : history.inherited = outer.inherited

variable {outer history : ThreadHistory}

theorem enclosedBy_enter (settled : outer.tailPending = false) (callee : BlockId) :
    outer.EnclosedBy (outer.enter callee) where
  frames_below := by
    simp only [below_enter settled, List.suffix_rfl]
  inherited_eq := by
    rw [enter, push]
    split <;> rfl

namespace EnclosedBy

theorem below_ne_nil (enclosed : outer.EnclosedBy history) : history.below ≠ [] := by
  intro outside
  have nothing := enclosed.frames_below
  rw [outside, List.suffix_nil] at nothing
  cases nothing

/-- A call puts a frame on top or replaces the innermost one. -/
theorem enter (enclosed : outer.EnclosedBy history) (callee : BlockId) :
    outer.EnclosedBy (history.enter callee) := by
  rw [ThreadHistory.enter, push]
  split
  next => exact ⟨enclosed.frames_below, enclosed.inherited_eq⟩
  next =>
    have deeper : outer.frames <:+ history.frames :=
      enclosed.frames_below.trans (List.suffix_cons history.top history.below)
    exact ⟨deeper, enclosed.inherited_eq⟩

/-- A return takes away one frame, and the outer ones stay if something is left on top of
them. -/
theorem exit (enclosed : outer.EnclosedBy history)
    (deep : outer.frames.length < history.exit.frames.length) :
    outer.EnclosedBy history.exit := by
  rcases history with ⟨top, below, pending, inherited⟩
  cases below with
  | nil => exact absurd rfl enclosed.below_ne_nil
  | cons caller rest =>
      rcases List.suffix_cons_iff.mp enclosed.frames_below with all | inner
      · rw [all] at deep
        exact absurd deep (Nat.lt_irrefl _)
      · exact ⟨inner, enclosed.inherited_eq⟩

/-- Nothing that keeps the thread deep inside touches the outer frames. -/
theorem after (enclosed : outer.EnclosedBy history) {operation : Operation}
    (deep : outer.frames.length < (history.after operation).frames.length) :
    outer.EnclosedBy (history.after operation) := by
  have marked : outer.EnclosedBy history.markTail :=
    ⟨enclosed.frames_below, enclosed.inherited_eq⟩
  cases operation with
  | enter callee => exact enclosed.enter callee
  | markTail =>
      rw [ThreadHistory.after, if_neg enclosed.below_ne_nil]
      exact marked
  | tailCall callee =>
      rw [ThreadHistory.after, if_neg enclosed.below_ne_nil]
      exact marked.enter callee
  | exit => exact enclosed.exit deep
  | sample time => exact enclosed

/-- The return to the outer depth gives the outer history back. -/
theorem exit_eq (enclosed : outer.EnclosedBy history) (settled : outer.tailPending = false)
    (back : history.exit.frames.length = outer.frames.length) : history.exit = outer := by
  rcases history with ⟨top, below, pending, inherited⟩
  rcases outer with ⟨outerTop, outerBelow, outerPending, outerInherited⟩
  cases settled
  have inherited_eq : inherited = outerInherited := enclosed.inherited_eq
  subst inherited_eq
  cases below with
  | nil => exact absurd rfl enclosed.below_ne_nil
  | cons caller rest =>
      have all := enclosed.frames_below.eq_of_length back.symm
      cases all
      rfl

end EnclosedBy

end ThreadHistory

namespace Thread

/-- The thread after several operations; those that are refused change nothing. -/
def afterAll (thread : Thread) (operations : List Operation) : Thread :=
  operations.foldl after thread

/-- The operations stay above a depth until the last of them, which is the return to it. -/
def ReturnsTo (depth : Nat) (thread : Thread) : List Operation → Prop
  | [] => False
  | [last] => last = .exit ∧ (thread.after last).depth = depth
  | operation :: rest =>
      depth < (thread.after operation).depth ∧ (thread.after operation).ReturnsTo depth rest

/-- The operations are one call with everything up to the return from it. -/
def Brackets (thread : Thread) : List Operation → Prop
  | .enter callee :: rest => (thread.after (.enter callee)).ReturnsTo thread.depth rest
  | _ => False

theorem Follows.afterAll {thread : Thread} {history : ThreadHistory}
    (follows : thread.Follows history) (operations : List Operation) :
    (thread.afterAll operations).Follows (operations.foldl ThreadHistory.after history) := by
  induction operations generalizing thread history with
  | nil => exact follows
  | cons operation rest ih => exact ih (follows.after operation)

/-- What stays above a history and returns to it follows it again. -/
theorem ReturnsTo.follows {outer history : ThreadHistory} (settled : outer.tailPending = false)
    {operations : List Operation} {thread : Thread} (follows : thread.Follows history)
    (enclosed : outer.EnclosedBy history)
    (returns : thread.ReturnsTo outer.frames.length operations) :
    (thread.afterAll operations).Follows outer := by
  induction operations generalizing thread history with
  | nil => exact returns.elim
  | cons operation rest ih =>
      have next := follows.after operation
      cases rest with
      | nil =>
          rcases returns with ⟨rfl, back⟩
          rw [next.depth_eq] at back
          have restored : history.after .exit = outer := enclosed.exit_eq settled back
          exact restored ▸ next
      | cons second others =>
          rcases returns with ⟨deep, later⟩
          rw [next.depth_eq] at deep
          exact ih next (enclosed.after deep) later

/-- **A bracket leaves no trace in the history.** -/
theorem Brackets.follows {thread : Thread} {history : ThreadHistory}
    (follows : thread.Follows history) (settled : thread.tailPending = false)
    {operations : List Operation} (brackets : thread.Brackets operations) :
    (thread.afterAll operations).Follows history := by
  rw [follows.tailPending_eq] at settled
  cases operations with
  | nil => exact brackets.elim
  | cons first rest =>
      cases first with
      | enter callee =>
          rw [Brackets, follows.depth_eq] at brackets
          have entered := follows.after (.enter callee)
          have returned := brackets.follows settled entered
            (ThreadHistory.enclosedBy_enter settled callee)
          exact returned
      | markTail | tailCall | exit | sample => exact brackets.elim

/-- The thread without its table of positions. -/
def bare (thread : Thread) : Thread :=
  { thread with slots := {} }

theorem FramesFollow.frames_eq {first second : List Frame} {histories : List FrameHistory}
    (firstFollow : FramesFollow first histories)
    (secondFollow : FramesFollow second histories) : first = second := by
  induction firstFollow generalizing second with
  | nil =>
      cases secondFollow
      rfl
  | @cons frame _ _ _ block_eq ends_eq _ ih =>
      cases secondFollow with
      | @cons other _ _ _ otherBlock_eq otherEnds_eq outer =>
          have ends : frame.ends = other.ends :=
            Nat.add_left_cancel (ends_eq.trans otherEnds_eq.symm)
          have same : frame = other := by
            rcases frame with ⟨block, count⟩
            rcases other with ⟨otherBlock, otherCount⟩
            exact congrArg₂ Frame.mk (block_eq.trans otherBlock_eq.symm) ends
          rw [same, ih outer]

/-- Whether an operation is refused, and why, depends on whether there is a call. -/
theorem refused_eq_of_below {first second : Thread}
    (below_iff : first.below = [] ↔ second.below = []) (operation : Operation) :
    (first.apply operation).map (fun _ => ()) = (second.apply operation).map (fun _ => ()) := by
  cases operation with
  | enter callee | sample time => rfl
  | markTail | tailCall callee =>
      simp only [apply, markTail_eq, below_iff]
      split <;> rfl
  | exit =>
      rcases first with ⟨_, below, _, _, _, _⟩
      rcases second with ⟨_, otherBelow, _, _, _, _⟩
      cases below with
      | nil =>
          cases below_iff.mp rfl
          rfl
      | cons caller rest =>
          cases otherBelow with
          | nil => cases below_iff.mpr rfl
          | cons otherCaller otherRest => rfl

section CommonHistory

variable {first second : Thread} {history : ThreadHistory}
  (firstFollows : first.Follows history) (secondFollows : second.Follows history)

include firstFollows secondFollows

/-- Threads that follow one history differ in their tables at most. -/
theorem Follows.bare_eq : first.bare = second.bare := by
  have frames_eq := firstFollows.frames.frames_eq secondFollows.frames
  have active_eq : first.active = second.active :=
    Array.toList_inj.mp (firstFollows.active_eq.trans secondFollows.active_eq.symm)
  have pending_eq := firstFollows.tailPending_eq.trans secondFollows.tailPending_eq.symm
  have inherited_eq := firstFollows.inherited_eq.trans secondFollows.inherited_eq.symm
  rcases first with ⟨top, below, active, slots, pending, inherited⟩
  rcases second with ⟨otherTop, otherBelow, otherActive, otherSlots, otherPending, otherInherited⟩
  cases frames_eq
  cases active_eq
  cases pending_eq
  cases inherited_eq
  rfl

/-- They refuse the same operations and go on following one history. -/
theorem Follows.apply_cases (operation : Operation) :
    (∃ violation, first.apply operation = .error violation ∧
        second.apply operation = .error violation) ∨
      ∃ firstNext secondNext, first.apply operation = .ok firstNext ∧
        second.apply operation = .ok secondNext ∧
        firstNext.Follows (history.after operation) ∧
        secondNext.Follows (history.after operation) := by
  have refused_eq := refused_eq_of_below
    (firstFollows.below_eq_nil.trans secondFollows.below_eq_nil.symm) operation
  have firstAfter := firstFollows.after operation
  have secondAfter := secondFollows.after operation
  rw [Thread.after] at firstAfter secondAfter
  cases firstApplied : first.apply operation with
  | error violation =>
      cases secondApplied : second.apply operation with
      | error other =>
          rw [firstApplied, secondApplied] at refused_eq
          cases refused_eq
          exact .inl ⟨violation, rfl, rfl⟩
      | ok secondNext =>
          rw [firstApplied, secondApplied] at refused_eq
          cases refused_eq
  | ok firstNext =>
      cases secondApplied : second.apply operation with
      | error other =>
          rw [firstApplied, secondApplied] at refused_eq
          cases refused_eq
      | ok secondNext =>
          rw [firstApplied] at firstAfter
          rw [secondApplied] at secondAfter
          exact .inr ⟨firstNext, secondNext, rfl, rfl, firstAfter, secondAfter⟩

end CommonHistory

end Thread

namespace Tracked

/-- A tracked thread without its table of positions. -/
def bare (tracked : Tracked) : Tracked :=
  { tracked with thread := tracked.thread.bare }

/-- Threads that follow one history do the same to any graph. -/
theorem applyAll_bare {first second : Thread} {history : ThreadHistory}
    (firstFollows : first.Follows history) (secondFollows : second.Follows history)
    (graph : CallGraph) (operations : List Operation) :
    (applyAll ⟨first, graph⟩ operations).map bare =
      (applyAll ⟨second, graph⟩ operations).map bare := by
  induction operations generalizing first second history graph with
  | nil =>
      have same := firstFollows.bare_eq secondFollows
      exact congrArg (fun thread => Except.ok (Tracked.mk thread graph)) same
  | cons operation rest ih =>
      have requests_eq : first.requests operation = second.requests operation :=
        (firstFollows.requests_eq operation).trans (secondFollows.requests_eq operation).symm
      rw [applyAll, applyAll, List.foldlM_cons, List.foldlM_cons, apply_eq, apply_eq, requests_eq]
      rcases firstFollows.apply_cases secondFollows operation with
        ⟨violation, firstRefuses, secondRefuses⟩ |
        ⟨firstNext, secondNext, firstApplied, secondApplied, firstAfter, secondAfter⟩
      · rw [firstRefuses, secondRefuses]
      · rw [firstApplied, secondApplied]
        exact ih firstAfter secondAfter _

end Tracked

end CallLedger

import Mathlib.Data.Finset.Prod
import CallLedger.Proofs.Thread.Bracket

/-!
# Loops of tail calls

A call that replaces another one stays in its frame, so a thread may go on for as long as it
likes without getting deeper.  All edges on the way count for that one frame, but an edge that
runs is not made active a second time.  A loop through some blocks therefore adds no more active
edges than there are pairs of these blocks, and one return takes all of them away.
-/

namespace CallLedger

/-- A loop of tail calls replaces the current call by a call to one of some blocks, makes ready
for that, or lets time pass. -/
def Operation.LoopsIn (blocks : Finset BlockId) : Operation → Prop
  | .tailCall callee => callee ∈ blocks
  | .markTail | .sample _ => True
  | .enter _ | .exit => False

instance (blocks : Finset BlockId) : DecidablePred (Operation.LoopsIn blocks)
  | .tailCall callee => inferInstanceAs (Decidable (callee ∈ blocks))
  | .markTail | .sample _ => isTrue trivial
  | .enter _ | .exit => isFalse id

/-- An edge from where a loop started, or from one of its blocks, to one of its blocks. -/
def Edge.LiesIn (start : BlockId) (blocks : Finset BlockId) (edge : Edge) : Prop :=
  (edge.caller = start ∨ edge.caller ∈ blocks) ∧ edge.callee ∈ blocks

/-- There are no more such edges than pairs of blocks, and one for each block to start with. -/
theorem Edge.length_le_of_liesIn {start : BlockId} {blocks : Finset BlockId} {edges : List Edge}
    (distinct : edges.Nodup) (inside : ∀ edge ∈ edges, edge.LiesIn start blocks) :
    edges.length ≤ blocks.card * blocks.card + blocks.card := by
  let ends : Edge → BlockId × BlockId := fun edge => (edge.caller, edge.callee)
  have ends_injective : Function.Injective ends := by
    rintro ⟨caller, callee⟩ ⟨_, _⟩ same
    cases same
    rfl
  have subset : (edges.map ends).toFinset ⊆ insert start blocks ×ˢ blocks := by
    intro pair member
    rw [List.mem_toFinset] at member
    rcases List.mem_map.mp member with ⟨edge, listed, rfl⟩
    rcases inside edge listed with ⟨caller, callee⟩
    exact Finset.mem_product.mpr ⟨Finset.mem_insert.mpr caller, callee⟩
  calc edges.length
      = (edges.map ends).toFinset.card := by
        rw [List.toFinset_card_of_nodup (distinct.map ends_injective), List.length_map]
    _ ≤ (insert start blocks).card * blocks.card := by
        rw [← Finset.card_product]
        exact Finset.card_le_card subset
    _ ≤ (blocks.card + 1) * blocks.card :=
        Nat.mul_le_mul_right _ (Finset.card_insert_le start blocks)
    _ = blocks.card * blocks.card + blocks.card := Nat.succ_mul ..

namespace ThreadHistory

/-- A loop of tail calls has led from one history to another. -/
structure LoopsTo (before : ThreadHistory) (blocks : Finset BlockId) (after : ThreadHistory) :
    Prop where
  below_eq : after.below = before.below
  inherited_eq : after.inherited = before.inherited
  current : after.current = before.current ∨ after.current ∈ blocks
  /-- More calls were made into the innermost frame. -/
  calls : ∃ more, after.top.calls = before.top.calls ++ more ∧
    ∀ edge ∈ more, edge.LiesIn before.current blocks

/-- A return leaves the calls in progress that were made into the frames below. -/
theorem inProgress_exit {history : ThreadHistory} (called : history.below ≠ []) :
    history.exit.inProgress = FrameHistory.allCalls history.below := by
  rcases history with ⟨top, below, pending, inherited⟩
  cases below with
  | nil => exact absurd rfl called
  | cons caller rest => rfl

namespace LoopsTo

variable {before history : ThreadHistory} {blocks : Finset BlockId}

theorem refl (before : ThreadHistory) (blocks : Finset BlockId) :
    before.LoopsTo blocks before where
  below_eq := rfl
  inherited_eq := rfl
  current := .inl rfl
  calls := ⟨[], (List.append_nil _).symm, nofun⟩

theorem markTail (loops : before.LoopsTo blocks history) :
    before.LoopsTo blocks history.markTail :=
  ⟨loops.below_eq, loops.inherited_eq, loops.current, loops.calls⟩

/-- A call that replaces the current one goes from a block of the loop to another. -/
theorem tailCall (loops : before.LoopsTo blocks history) {callee : BlockId}
    (inside : callee ∈ blocks) : before.LoopsTo blocks (history.markTail.enter callee) where
  below_eq := loops.below_eq
  inherited_eq := loops.inherited_eq
  current := .inr inside
  calls := by
    rcases loops.calls with ⟨more, calls_eq, lie⟩
    refine ⟨more ++ [⟨history.current, callee⟩], ?_, ?_⟩
    · rw [← List.append_assoc, ← calls_eq]
      rfl
    · intro edge member
      rcases List.mem_append.mp member with earlier | last
      · exact lie edge earlier
      · rw [List.mem_singleton.mp last]
        exact ⟨loops.current, inside⟩

theorem after (loops : before.LoopsTo blocks history) {operation : Operation}
    (inside : operation.LoopsIn blocks) : before.LoopsTo blocks (history.after operation) := by
  cases operation with
  | markTail =>
      rw [ThreadHistory.after]
      split
      next => exact loops
      next => exact loops.markTail
  | tailCall callee =>
      rw [ThreadHistory.after]
      split
      next => exact loops
      next => exact loops.tailCall inside
  | sample time => exact loops
  | enter callee | exit => exact inside.elim

theorem afterAll (loops : before.LoopsTo blocks history) {operations : List Operation}
    (inside : ∀ operation ∈ operations, operation.LoopsIn blocks) :
    before.LoopsTo blocks (operations.foldl ThreadHistory.after history) := by
  induction operations generalizing history with
  | nil => exact loops
  | cons operation rest ih =>
      rw [List.forall_mem_cons] at inside
      exact ih (loops.after inside.1) inside.2

/-- A return forgets the loop. -/
theorem exit_eq (loops : before.LoopsTo blocks history) (called : before.below ≠ []) :
    history.exit = before.exit := by
  rcases history with ⟨top, below, pending, inherited⟩
  rcases before with ⟨beforeTop, beforeBelow, beforePending, beforeInherited⟩
  have below_eq : below = beforeBelow := loops.below_eq
  have inherited_eq : inherited = beforeInherited := loops.inherited_eq
  subst below_eq inherited_eq
  cases below with
  | nil => exact absurd rfl called
  | cons caller rest => rfl

/-- The active path of a loop goes on from the one before it, by no more than the edges that lie
in the loop. -/
theorem active_grows (loops : before.LoopsTo blocks history) :
    ∃ added, history.inProgress.eraseDups = before.inProgress.eraseDups ++ added ∧
      added.length ≤ blocks.card * blocks.card + blocks.card := by
  rcases loops.calls with ⟨more, calls_eq, lie⟩
  have inProgress_eq : history.inProgress = before.inProgress ++ more := by
    rw [inProgress, inProgress, frames, frames, FrameHistory.allCalls_cons,
      FrameHistory.allCalls_cons, loops.below_eq, calls_eq, List.append_assoc]
  rcases eraseDups_prefix_append before.inProgress more with ⟨added, extended⟩
  refine ⟨added, by rw [inProgress_eq, extended], ?_⟩
  have distinct := nodup_eraseDups (before.inProgress ++ more)
  rw [← extended, List.nodup_append] at distinct
  apply Edge.length_le_of_liesIn distinct.2.1
  intro edge member
  have running : edge ∈ (before.inProgress ++ more).eraseDups :=
    extended ▸ List.mem_append_right _ member
  rcases List.mem_append.mp (List.mem_eraseDups.mp running) with old | new
  · -- What ran before the loop is not added again.
    exact absurd rfl (distinct.2.2 edge (List.mem_eraseDups.mpr old) edge member)
  · exact lie edge new

end LoopsTo

end ThreadHistory

namespace Thread

/-- A return takes a thread to the frame below, with the active path that this frame had. -/
structure Leaves (thread left : Thread) : Prop where
  returned : thread.exit = .ok left
  frames_eq : left.frames = thread.below
  active_prefix : left.active.toList <+: thread.active.toList
  /-- What is left are the calls made into the frames below, each once. -/
  active_eq : ∃ history, thread.Follows history ∧
    left.active.toList = (FrameHistory.allCalls history.below).eraseDups

/-- A loop of tail calls leaves a thread as deep as it was, with a bounded number of edges more,
and one return takes the thread to where it would have gone before the loop. -/
structure LoopsTo (before : Thread) (blocks : Finset BlockId) (after : Thread) : Prop where
  depth_eq : after.depth = before.depth
  grows : ∃ added, after.active.toList = before.active.toList ++ added ∧
    added.length ≤ blocks.card * blocks.card + blocks.card
  returns : ∃ earlier left, before.Leaves earlier ∧ after.Leaves left ∧
    left.frames = earlier.frames ∧ left.active = earlier.active

theorem exists_exit {thread : Thread} (called : thread.below ≠ []) :
    ∃ left, thread.exit = .ok left ∧ left.frames = thread.below := by
  rcases thread with ⟨top, below, active, slots, pending, inherited⟩
  cases below with
  | nil => exact absurd rfl called
  | cons caller rest => exact ⟨_, rfl, rfl⟩

namespace Follows

theorem below_eq {first second : Thread} {firstHistory secondHistory : ThreadHistory}
    (firstFollows : first.Follows firstHistory) (secondFollows : second.Follows secondHistory)
    (same : firstHistory.below = secondHistory.below) : first.below = second.below := by
  cases firstFollows.frames with
  | cons _ _ firstOuter =>
      cases secondFollows.frames with
      | cons _ _ secondOuter => exact firstOuter.frames_eq (same ▸ secondOuter)

/-- The return to a frame keeps the edges that were active in it. -/
theorem exists_leaves {thread : Thread} {history : ThreadHistory}
    (follows : thread.Follows history) (called : history.below ≠ []) :
    ∃ left, thread.Leaves left ∧ left.Follows history.exit := by
  obtain ⟨left, returned, frames_eq⟩ := exists_exit (follows.below_eq_nil.not.mpr called)
  have leftFollows := follows.exit returned
  have active_eq : left.active.toList = (FrameHistory.allCalls history.below).eraseDups := by
    rw [leftFollows.active_eq, ThreadHistory.inProgress_exit called]
  refine ⟨left, ⟨returned, frames_eq, ?_, history, follows, active_eq⟩, leftFollows⟩
  rw [active_eq, follows.active_eq, ThreadHistory.inProgress, ThreadHistory.frames,
    FrameHistory.allCalls_cons]
  exact eraseDups_prefix_append _ history.top.calls

/-- A thread is where its history is: after a loop, and after the return from it. -/
theorem loopsTo {before after : Thread} {history later : ThreadHistory}
    {blocks : Finset BlockId} (follows : before.Follows history)
    (afterFollows : after.Follows later) (loops : history.LoopsTo blocks later)
    (called : history.below ≠ []) : before.LoopsTo blocks after where
  depth_eq := by
    rw [follows.depth_eq, afterFollows.depth_eq, ThreadHistory.frames, ThreadHistory.frames,
      List.length_cons, List.length_cons, loops.below_eq]
  grows := by
    rw [follows.active_eq, afterFollows.active_eq]
    exact loops.active_grows
  returns := by
    have stillCalled : later.below ≠ [] := loops.below_eq ▸ called
    rcases follows.exists_leaves called with ⟨earlier, leaves, earlierFollows⟩
    rcases afterFollows.exists_leaves stillCalled with ⟨left, leavesLoop, leftFollows⟩
    rw [loops.exit_eq called] at leftFollows
    refine ⟨earlier, left, leaves, leavesLoop, ?_, ?_⟩
    · rw [leaves.frames_eq, leavesLoop.frames_eq]
      exact afterFollows.below_eq follows loops.below_eq
    · rw [← Array.toList_inj, leftFollows.active_eq, earlierFollows.active_eq]

end Follows

end Thread

end CallLedger

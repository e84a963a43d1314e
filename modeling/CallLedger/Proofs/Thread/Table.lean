import CallLedger.Proofs.Thread.Range

/-!
# The table of positions

A thread never takes an edge out of its table of positions, and a fork copies the table as it
is, so the table also has positions of edges that were dropped, where another edge or the same
one may stand by now.  An entry is believed only if the active path has the edge there.  On
every thread that operations and forks made of a fresh one, this look-up finds an edge exactly
if a search through the whole active path would.  The lemmas before it say how the frames share
the active path among them.
-/

namespace CallLedger

namespace Thread

/-- The active path is split among the frames: each of them ends as many edges as it says. -/
theorem FramesFollow.sum_ends {frames : List Frame} {histories : List FrameHistory}
    (follow : FramesFollow frames histories) :
    (frames.map Frame.ends).sum = (FrameHistory.allCalls histories).eraseDups.length := by
  induction follow with
  | nil => rfl
  | cons _ ends_eq _ ih => rw [List.map_cons, List.sum_cons, ih, Nat.add_comm, ends_eq]

/-- The root frame lies under all others, and a call is put in place of another only above
it. -/
structure Rooted (thread : Thread) : Prop where
  bottom : thread.frames.getLast? = some .root
  tail_inside : thread.tailPending = true → thread.below ≠ []

namespace Rooted

variable {thread : Thread}

theorem start : Thread.start.Rooted :=
  ⟨rfl, nofun⟩

theorem fork (rooted : thread.Rooted) : thread.fork.Rooted :=
  ⟨rooted.bottom, nofun⟩

theorem bottom_below (rooted : thread.Rooted) (called : thread.below ≠ []) :
    thread.below.getLast? = some .root := by
  have bottom := rooted.bottom
  rwa [frames, ← List.singleton_append, List.getLast?_append_of_ne_nil _ called] at bottom

/-- Whether a frame is pushed or takes the place of another, the root frame is under it. -/
theorem bottom_push (rooted : thread.Rooted) (callee : BlockId) :
    (thread.push callee).below.getLast? = some .root := by
  rw [push]
  split
  next pending => exact rooted.bottom_below (rooted.tail_inside pending)
  next => exact rooted.bottom

theorem enter (rooted : thread.Rooted) (callee : BlockId) : (thread.enter callee).Rooted := by
  have below_eq : (thread.enter callee).below = (thread.push callee).below := by
    rw [Thread.enter, activate]
    split <;> rfl
  have bottom := rooted.bottom_push callee
  have called : (thread.push callee).below ≠ [] := by
    intro outside
    rw [outside] at bottom
    cases bottom
  refine ⟨?_, fun _ => below_eq ▸ called⟩
  rw [frames, below_eq, ← List.singleton_append, List.getLast?_append_of_ne_nil _ called]
  exact bottom

theorem exit (rooted : thread.Rooted) {next : Thread} (returned : thread.exit = .ok next) :
    next.Rooted := by
  rcases thread with ⟨top, below, active, slots, pending, inherited⟩
  cases below with
  | nil => cases returned
  | cons caller rest =>
      cases returned
      exact ⟨rooted.bottom_below (List.cons_ne_nil _ _), nofun⟩

/-- No operation reaches the root frame. -/
theorem after (rooted : thread.Rooted) (operation : Operation) :
    (thread.after operation).Rooted := by
  cases operation with
  | enter callee => exact rooted.enter callee
  | markTail =>
      rw [after_markTail]
      split
      next => exact rooted
      next called => exact ⟨rooted.bottom, fun _ => called⟩
  | tailCall callee =>
      rw [after_tailCall]
      split
      next => exact rooted
      next called =>
        have marked : Rooted { thread with tailPending := true } :=
          ⟨rooted.bottom, fun _ => called⟩
        exact marked.enter callee
  | exit =>
      cases returned : thread.exit with
      | ok next =>
          rw [after_exit returned]
          exact rooted.exit returned
      | error violation =>
          have refused : thread.apply .exit = .error violation := returned
          rw [after_of_refused refused]
          exact rooted
  | sample time => exact rooted

end Rooted

theorem Reachable.rooted {thread : Thread} (reachable : thread.Reachable) : thread.Rooted := by
  induction reachable with
  | start => exact .start
  | fork _ ih => exact ih.fork
  | after _ operation ih => exact ih.after operation

/-- A frame on top of the stack is not looked up, so it makes no difference. -/
theorem isRunning_push (thread : Thread) (callee : BlockId) (edge : Edge) :
    (thread.push callee).isRunning edge = thread.isRunning edge := by
  rw [push]
  split <;> rfl

/-- What a thread keeps fits together. -/
structure Coherent (thread : Thread) : Prop where
  /-- What entering a call looks up in the table is whether the edge is active. -/
  lookUp : ∀ (callee : BlockId) (edge : Edge),
    (thread.push callee).isRunning edge = true ↔ edge ∈ thread.active.toList
  /-- The table holds the position of exactly the edges that are active. -/
  position : ∀ edge : Edge,
    (∃ position, thread.slots[edge]? = some position ∧
      thread.active[position]? = some edge) ↔ edge ∈ thread.active.toList
  distinct : thread.active.toList.Nodup
  shared : thread.active.size = (thread.frames.map Frame.ends).sum
  bottom : thread.frames.getLast? = some ⟨⟨0⟩, 0⟩
  pending : thread.tailPending = true → 1 < thread.depth
  /-- A return takes away no more active edges than there are. -/
  enough : thread.top.ends ≤ thread.active.size

/-- **The look-up agrees with a search.**  On every thread that operations and forks made of a
fresh one, an edge is found through the table exactly if it is active, and the frames share the
active path among them. -/
theorem Reachable.coherent {thread : Thread} (reachable : thread.Reachable) :
    thread.Coherent := by
  rcases reachable.exists_history with ⟨history, follows, _⟩
  have rooted := reachable.rooted
  refine ⟨fun callee edge => ?_, fun edge => ⟨?_, ?_⟩, ?_, ?_, rooted.bottom, ?_,
    reachable.ends_le⟩
  · rw [isRunning_push]
    exact isRunning_iff follows.slots_known edge
  · rintro ⟨position, _, found⟩
    exact List.mem_of_getElem? (by simpa using found)
  · intro member
    rcases List.mem_iff_getElem?.mp member with ⟨position, found⟩
    exact ⟨position, follows.slots_known position edge found, by simpa using found⟩
  · rw [follows.active_eq]
    exact nodup_eraseDups _
  · rw [follows.frames.sum_ends, ← Array.length_toList, follows.active_eq]
    rfl
  · intro pending
    have called := List.length_pos_iff.mpr (rooted.tail_inside pending)
    rw [depth, frames, List.length_cons]
    exact Nat.succ_lt_succ called

/-- A thread whose table has an edge at a position that another edge took. -/
def staleThread : Thread :=
  (((start.after (.enter ⟨1⟩)).after (.enter ⟨2⟩)).after .exit).after (.enter ⟨3⟩)

theorem reachable_staleThread : staleThread.Reachable :=
  .after (.after (.after (.after .start _) _) _) _

theorem coherent_staleThread :
    staleThread.Reachable ∧ staleThread.slots[Edge.mk ⟨1⟩ ⟨2⟩]? = some 1 ∧
      staleThread.active[1]? = some ⟨⟨1⟩, ⟨3⟩⟩ ∧ staleThread.Coherent := by
  refine ⟨reachable_staleThread, ?_, ?_, reachable_staleThread.coherent⟩
  · cbv
  · cbv

end Thread

end CallLedger

import CallLedger.Proofs.Thread.Course

/-!
# Threads and their call histories

The history of a thread keeps on every frame all calls made into it: the one that pushed it
and every tail call that replaced it since.  A thread keeps much less, the distinct running
edges and a number for each frame, and looks edges up in a table that may be out of date.
The invariant `Thread.Follows` says that what a thread keeps is what its history makes of
it, and every operation preserves it.
-/

namespace CallLedger

/-- A frame with every call made into it, oldest first. -/
structure FrameHistory where
  block : BlockId
  calls : List Edge
  deriving DecidableEq

/-- A thread with the calls that its frames stand for. -/
structure ThreadHistory where
  /-- The innermost frame. -/
  top : FrameHistory
  /-- The frames under the innermost one, from the inside out. -/
  below : List FrameHistory
  /-- Whether the next call replaces the current one. -/
  tailPending : Bool
  /-- Stack depth at creation. -/
  inherited : Nat
  deriving DecidableEq

/-- Calls made into some frames, listed from the inside out, outermost frame first. -/
def FrameHistory.allCalls (frames : List FrameHistory) : List Edge :=
  frames.reverse.flatMap calls

@[simp] theorem FrameHistory.allCalls_cons (frame : FrameHistory) (outer : List FrameHistory) :
    allCalls (frame :: outer) = allCalls outer ++ frame.calls := by
  simp [allCalls]

namespace ThreadHistory

/-- A thread outside of any call. -/
def start : ThreadHistory :=
  ⟨⟨.root, []⟩, [], false, 1⟩

/-- All frames, from the inside out. -/
def frames (history : ThreadHistory) : List FrameHistory :=
  history.top :: history.below

/-- The block that is executing. -/
def current (history : ThreadHistory) : BlockId :=
  history.top.block

/-- Blocks on the call stack, the root first. -/
def stack (history : ThreadHistory) : List BlockId :=
  (history.frames.map FrameHistory.block).reverse

/-- The calls in progress, as often as they were made, root frame first. -/
def inProgress (history : ThreadHistory) : List Edge :=
  FrameHistory.allCalls history.frames

/-- A second thread that continues from the current call stack. -/
def fork (history : ThreadHistory) : ThreadHistory :=
  { history with tailPending := false, inherited := history.frames.length }

/-- Put a block on the stack, in place of the current one if a tail call is pending. -/
def push (history : ThreadHistory) (callee : BlockId) : ThreadHistory :=
  if history.tailPending then
    { history with
      top := { history.top with block := callee }
      tailPending := false }
  else
    { history with
      top := ⟨callee, []⟩
      below := history.frames
      tailPending := false }

/-- Note a call made into the innermost frame. -/
def note (history : ThreadHistory) (call : Edge) : ThreadHistory :=
  { history with top := { history.top with calls := history.top.calls ++ [call] } }

/-- Enter a call from the current block. -/
def enter (history : ThreadHistory) (callee : BlockId) : ThreadHistory :=
  (history.push callee).note ⟨history.current, callee⟩

/-- Make the next call replace the current one. -/
def markTail (history : ThreadHistory) : ThreadHistory :=
  { history with tailPending := true }

/-- Return from the current call and from the calls that it replaced. -/
def exit (history : ThreadHistory) : ThreadHistory :=
  match history.below with
  | [] => history
  | caller :: rest => { history with top := caller, below := rest, tailPending := false }

/-- The history after an operation.  Outside of any call there is nothing to replace or to
return from, and the history stays as it is. -/
def after (history : ThreadHistory) : Operation → ThreadHistory
  | .enter callee => history.enter callee
  | .markTail => if history.below = [] then history else history.markTail
  | .tailCall callee =>
      if history.below = [] then history else history.markTail.enter callee
  | .exit => history.exit
  | .sample _ => history

@[simp] theorem inProgress_push (history : ThreadHistory) (callee : BlockId) :
    (history.push callee).inProgress = history.inProgress := by
  rw [push]
  split
  · simp [inProgress, frames]
  · simp [inProgress, frames]

@[simp] theorem inProgress_note (history : ThreadHistory) (call : Edge) :
    (history.note call).inProgress = history.inProgress ++ [call] := by
  simp [note, inProgress, frames]

@[simp] theorem inProgress_enter (history : ThreadHistory) (callee : BlockId) :
    (history.enter callee).inProgress =
      history.inProgress ++ [⟨history.current, callee⟩] := by
  rw [enter, inProgress_note, inProgress_push]

@[simp] theorem current_enter (history : ThreadHistory) (callee : BlockId) :
    (history.enter callee).current = callee := by
  rw [enter, push]
  split <;> rfl

@[simp] theorem tailPending_enter (history : ThreadHistory) (callee : BlockId) :
    (history.enter callee).tailPending = false := by
  rw [enter, push]
  split <;> rfl

theorem below_enter {history : ThreadHistory} (settled : history.tailPending = false)
    (callee : BlockId) : (history.enter callee).below = history.frames := by
  rw [enter, push, if_neg (Bool.eq_false_iff.mp settled)]
  rfl

/-- Unless a tail call is pending, a return undoes a call. -/
theorem exit_enter {history : ThreadHistory} (settled : history.tailPending = false)
    (callee : BlockId) : (history.enter callee).exit = history := by
  rw [exit, below_enter settled]
  rcases history with ⟨top, below, pending, inherited⟩
  cases settled
  rfl

theorem mem_inProgress_of_exit {history : ThreadHistory} {call : Edge}
    (running : call ∈ history.exit.inProgress) : call ∈ history.inProgress := by
  rcases history with ⟨top, below, pending, inherited⟩
  cases below with
  | nil => exact running
  | cons caller rest =>
      simp only [inProgress, frames, FrameHistory.allCalls_cons top]
      exact List.mem_append_left _ running

end ThreadHistory

namespace Thread

/-- Frames follow their histories: the blocks agree, and a frame ends as many active edges
as its calls add to those of the frames below it. -/
inductive FramesFollow : List Frame → List FrameHistory → Prop where
  | nil : FramesFollow [] []
  | cons {frame : Frame} {frames : List Frame} {history : FrameHistory}
      {histories : List FrameHistory} (block_eq : frame.block = history.block)
      (ends_eq : (FrameHistory.allCalls histories).eraseDups.length + frame.ends =
        (FrameHistory.allCalls (history :: histories)).eraseDups.length)
      (outer : FramesFollow frames histories) :
      FramesFollow (frame :: frames) (history :: histories)

/-- The table of positions knows where every active edge is. -/
def SlotsKnown (thread : Thread) : Prop :=
  ∀ (position : Nat) (edge : Edge), thread.active.toList[position]? = some edge →
    thread.slots[edge]? = some position

/-- A thread follows a history: the same frames, the active path as the calls in progress
with every edge kept only at its first occurrence, and a table that can be trusted. -/
structure Follows (thread : Thread) (history : ThreadHistory) : Prop where
  frames : FramesFollow thread.frames history.frames
  active_eq : thread.active.toList = history.inProgress.eraseDups
  slots_known : thread.SlotsKnown
  tailPending_eq : thread.tailPending = history.tailPending
  inherited_eq : thread.inherited = history.inherited

/-- Where the table can be trusted, the look-up is a plain search. -/
theorem isRunning_iff {thread : Thread} (known : thread.SlotsKnown) (edge : Edge) :
    thread.isRunning edge = true ↔ edge ∈ thread.active.toList := by
  constructor
  · intro running
    rw [isRunning] at running
    split at running
    next position _ =>
      exact List.mem_of_getElem? (by simpa using running)
    next => cases running
  · intro member
    rcases List.mem_iff_getElem?.mp member with ⟨position, found⟩
    rw [isRunning, known position edge found]
    simpa using found

/-- Adding an edge that is not active keeps the table current: the older edges are other
edges, so their entries stay. -/
theorem SlotsKnown.push {thread : Thread} (known : thread.SlotsKnown) {edge : Edge}
    (fresh : edge ∉ thread.active.toList) (top : Frame) :
    SlotsKnown { thread with
      top := top
      active := thread.active.push edge
      slots := thread.slots.insert edge thread.active.size } := by
  intro position other found
  rw [Std.HashMap.getElem?_insert]
  simp only [Array.toList_push] at found
  by_cases old : position < thread.active.toList.length
  · rw [List.getElem?_append_left old] at found
    have different : edge ≠ other := fun equal => fresh (equal ▸ List.mem_of_getElem? found)
    rw [if_neg (by simpa using different)]
    exact known position other found
  · rw [List.getElem?_append_right (Nat.le_of_not_lt old)] at found
    rcases List.getElem?_eq_some_iff.mp found with ⟨inside, rfl⟩
    have last : position = thread.active.size := by
      simp only [Array.length_toList, List.length_singleton] at old inside
      omega
    simp [last]

/-- Dropping the newest edges leaves entries that are out of date, but of no active edge. -/
theorem SlotsKnown.shrink {thread : Thread} (known : thread.SlotsKnown) (length : Nat)
    (top : Frame) (below : List Frame) :
    SlotsKnown { thread with
      top := top
      below := below
      active := thread.active.shrink length
      tailPending := false } := by
  intro position edge found
  simp only [Array.toList_shrink, List.getElem?_take] at found
  split at found
  · exact known position edge found
  · cases found

theorem follows_start : start.Follows .start where
  frames := .cons rfl rfl .nil
  active_eq := rfl
  slots_known := by
    intro position edge found
    simp [start] at found
  tailPending_eq := rfl
  inherited_eq := rfl

theorem FramesFollow.blocks_eq {frames : List Frame} {histories : List FrameHistory}
    (follow : FramesFollow frames histories) :
    frames.map Frame.block = histories.map FrameHistory.block := by
  induction follow with
  | nil => rfl
  | cons block_eq _ _ ih => rw [List.map_cons, List.map_cons, block_eq, ih]

namespace Follows

variable {thread : Thread} {history : ThreadHistory}

theorem current_eq (follows : thread.Follows history) : thread.current = history.current := by
  cases follows.frames with
  | cons block_eq _ _ => exact block_eq

theorem stack_eq (follows : thread.Follows history) : thread.stack = history.stack := by
  rw [stack, ThreadHistory.stack, follows.frames.blocks_eq]

theorem depth_eq (follows : thread.Follows history) :
    thread.depth = history.frames.length := by
  have sameLength := congrArg List.length follows.frames.blocks_eq
  rwa [List.length_map, List.length_map] at sameLength

theorem fork (follows : thread.Follows history) : thread.fork.Follows history.fork where
  frames := follows.frames
  active_eq := follows.active_eq
  slots_known := follows.slots_known
  tailPending_eq := rfl
  inherited_eq := follows.depth_eq

/-- A pushed frame has no calls yet, and a frame put in place of another keeps its calls. -/
theorem push (follows : thread.Follows history) (callee : BlockId) :
    (thread.push callee).Follows (history.push callee) := by
  have pending := follows.tailPending_eq
  have active_eq : thread.active.toList = (history.push callee).inProgress.eraseDups := by
    rw [ThreadHistory.inProgress_push]
    exact follows.active_eq
  by_cases replaces : history.tailPending = true
  · rw [ThreadHistory.push, if_pos replaces] at active_eq
    rw [Thread.push, if_pos (pending.trans replaces), ThreadHistory.push, if_pos replaces]
    cases follows.frames with
    | cons _ ends_eq outer =>
        refine ⟨.cons rfl ?_ outer, active_eq, follows.slots_known, rfl, follows.inherited_eq⟩
        simpa using ends_eq
  · rw [ThreadHistory.push, if_neg replaces] at active_eq
    rw [Thread.push, if_neg (pending ▸ replaces), ThreadHistory.push, if_neg replaces]
    refine ⟨.cons rfl ?_ follows.frames, active_eq, follows.slots_known, ?_,
      follows.inherited_eq⟩
    · simp
    · simpa using pending.trans (by simpa using replaces)

/-- Noting a call adds it to the active path unless it runs already. -/
theorem activate (follows : thread.Follows history) (edge : Edge) :
    (thread.activate edge).Follows (history.note edge) := by
  have running := isRunning_iff follows.slots_known edge
  rw [follows.active_eq, List.mem_eraseDups] at running
  by_cases runs : edge ∈ history.inProgress
  · have unchanged : (history.note edge).inProgress.eraseDups = history.inProgress.eraseDups := by
      rw [ThreadHistory.inProgress_note, eraseDups_concat, if_pos runs]
    rw [Thread.activate, if_pos (running.mpr runs)]
    refine ⟨?_, ?_, follows.slots_known, follows.tailPending_eq, follows.inherited_eq⟩
    · cases follows.frames with
      | cons block_eq ends_eq outer =>
          refine .cons block_eq (ends_eq.trans ?_) outer
          exact (congrArg List.length unchanged).symm
    · exact follows.active_eq.trans unchanged.symm
  · have extended : (history.note edge).inProgress.eraseDups =
        history.inProgress.eraseDups ++ [edge] := by
      rw [ThreadHistory.inProgress_note, eraseDups_concat, if_neg runs]
    rw [Thread.activate, if_neg fun yes => runs (running.mp yes)]
    refine ⟨?_, ?_, ?_, follows.tailPending_eq, follows.inherited_eq⟩
    · cases follows.frames with
      | cons block_eq ends_eq outer =>
          refine .cons block_eq ?_ outer
          have longer : (history.note edge).inProgress.eraseDups.length =
              history.inProgress.eraseDups.length + 1 := by
            rw [extended, List.length_append, List.length_singleton]
          exact (congrArg (· + 1) ends_eq).trans longer.symm
    · simp only [Array.toList_push, follows.active_eq, extended]
    · refine follows.slots_known.push (fun member => runs ?_) _
      rwa [follows.active_eq, List.mem_eraseDups] at member

theorem enter (follows : thread.Follows history) (callee : BlockId) :
    (thread.enter callee).Follows (history.enter callee) := by
  have same : thread.edgeTo callee = ⟨history.current, callee⟩ := by
    rw [edgeTo, follows.current_eq]
  rw [ThreadHistory.enter, ← same]
  exact (follows.push callee).activate (thread.edgeTo callee)

private theorem take_of_ends {active outer calls : List Edge} {ends : Nat}
    (active_eq : active = (outer ++ calls).eraseDups)
    (ends_eq : outer.eraseDups.length + ends = (outer ++ calls).eraseDups.length) :
    active.take (active.length - ends) = outer.eraseDups := by
  have kept := List.prefix_iff_eq_take.mp (eraseDups_prefix_append outer calls)
  have length_eq : active.length - ends = outer.eraseDups.length := by
    rw [active_eq]
    omega
  rw [length_eq, active_eq]
  exact kept.symm

theorem below_eq_nil (follows : thread.Follows history) :
    thread.below = [] ↔ history.below = [] := by
  rcases thread with ⟨top, below, _, _, _, _⟩
  rcases history with ⟨topHistory, belowHistory, _, _⟩
  have frames : FramesFollow (top :: below) (topHistory :: belowHistory) := follows.frames
  cases frames with
  | cons _ _ outer => cases outer <;> simp

theorem markTail (follows : thread.Follows history) :
    Follows { thread with tailPending := true } history.markTail where
  frames := follows.frames
  active_eq := follows.active_eq
  slots_known := follows.slots_known
  tailPending_eq := rfl
  inherited_eq := follows.inherited_eq

/-- Leaving a frame drops exactly the edges that its calls had added. -/
theorem exit (follows : thread.Follows history) {next : Thread}
    (returned : thread.exit = .ok next) : next.Follows history.exit := by
  rcases thread with ⟨top, below, active, slots, pending, inherited⟩
  rcases history with ⟨topHistory, belowHistory, pendingHistory, inheritedHistory⟩
  have frames : FramesFollow (top :: below) (topHistory :: belowHistory) := follows.frames
  have active_eq : active.toList =
      (FrameHistory.allCalls (topHistory :: belowHistory)).eraseDups := follows.active_eq
  cases frames with
  | cons _ ends_eq outer =>
      cases outer with
      | nil => cases returned
      | cons block_eq outer_ends_eq outermost =>
          cases returned
          refine ⟨.cons block_eq outer_ends_eq outermost, ?_,
            follows.slots_known.shrink _ _ _, rfl, follows.inherited_eq⟩
          -- The edges of the outer frames come first, so cutting the end off leaves them.
          rw [FrameHistory.allCalls_cons topHistory] at active_eq ends_eq
          change (active.shrink (active.size - top.ends)).toList = _
          rw [Array.toList_shrink]
          exact take_of_ends active_eq ends_eq

/-- **Threads follow their histories.**  What holds of a thread and its history holds after
any operation, also if the operation is refused. -/
theorem after (follows : thread.Follows history) (operation : Operation) :
    (thread.after operation).Follows (history.after operation) := by
  have outside := follows.below_eq_nil
  cases operation with
  | enter callee => exact follows.enter callee
  | markTail =>
      rw [ThreadHistory.after, after_markTail]
      by_cases below : thread.below = []
      · rwa [if_pos below, if_pos (outside.mp below)]
      · rw [if_neg below, if_neg (outside.not.mp below)]
        exact follows.markTail
  | tailCall callee =>
      rw [ThreadHistory.after, after_tailCall]
      by_cases below : thread.below = []
      · rwa [if_pos below, if_pos (outside.mp below)]
      · rw [if_neg below, if_neg (outside.not.mp below)]
        exact follows.markTail.enter callee
  | exit =>
      cases returned : thread.exit with
      | ok next =>
          rw [after_exit returned]
          exact follows.exit returned
      | error violation =>
          have below := outside.mp (exit_refused_iff.mp ⟨violation, returned⟩)
          have refused : thread.apply .exit = .error violation := returned
          rw [after_of_refused refused, ThreadHistory.after, ThreadHistory.exit, below]
          exact follows
  | sample time => exact follows

end Follows

end Thread

end CallLedger

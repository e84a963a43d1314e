import CallLedger.Proofs.Session.Contract
import CallLedger.Proofs.Thread.Bracket

/-!
# Whose calls are open

A thread that is forked starts inside of calls that its parent has to return from; it owes
returns only for the calls that it enters itself.  When a thread is ended, all that is looked at
is how deep it was when it was made and how deep it is now.  As long as the thread stays above
the frames that it found, the difference is the number of its own calls that are open.  But
nothing keeps it from returning from frames of its parent, and every such return hides one of
the calls that it enters afterwards.
-/

namespace CallLedger

/-- Where a frame on the call stack of a thread comes from. -/
inductive Origin where
  /-- The frame was there when the thread was made. -/
  | inherited
  /-- The thread entered a call. -/
  | own
  deriving DecidableEq

/-- The origins of the frames on a call stack. -/
structure FrameOrigins where
  /-- Origin of the innermost frame. -/
  top : Origin
  /-- Origins of the frames under the innermost one, from the inside out. -/
  below : List Origin
  /-- Whether the next call replaces the current one. -/
  tailPending : Bool

namespace FrameOrigins

/-- A thread that was just made has entered nothing yet. -/
def atCreation (created : Thread) : FrameOrigins where
  top := .inherited
  below := created.below.map fun _ => .inherited
  tailPending := false

/-- The origins of all frames, from the inside out. -/
def frames (origins : FrameOrigins) : List Origin :=
  origins.top :: origins.below

/-- How many frames there are for calls that the thread entered itself. -/
def own (origins : FrameOrigins) : Nat :=
  origins.frames.count .own

/-- How many of the frames are left that were there at first. -/
def kept (origins : FrameOrigins) : Nat :=
  origins.frames.count .inherited

/-- The origins after an operation.  A call that replaces another one stands in the frame of
that one, whoever it belongs to. -/
def after (origins : FrameOrigins) : Operation → FrameOrigins
  | .enter _ =>
      if origins.tailPending then { origins with tailPending := false }
      else ⟨.own, origins.frames, false⟩
  | .markTail =>
      if origins.below = [] then origins else { origins with tailPending := true }
  | .tailCall _ =>
      if origins.below = [] then origins else { origins with tailPending := false }
  | .exit =>
      match origins.below with
      | [] => origins
      | caller :: rest => ⟨caller, rest, false⟩
  | .sample _ => origins

/-- The origins after several operations. -/
def afterAll (origins : FrameOrigins) (operations : List Operation) : FrameOrigins :=
  operations.foldl after origins

/-- Every call that the thread entered and did not return from is reported, and nothing else. -/
def verdict (origins : FrameOrigins) : Except Violation Unit :=
  if origins.own = 0 then .ok () else .error (.openCalls origins.own)

theorem own_add_kept (origins : FrameOrigins) :
    origins.own + origins.kept = origins.below.length + 1 := by
  have split : ∀ frames : List Origin,
      frames.count .own + frames.count .inherited = frames.length := by
    intro frames
    induction frames with
    | nil => rfl
    | cons origin rest ih => cases origin <;> simp <;> omega
  exact split origins.frames

theorem kept_atCreation (created : Thread) : (atCreation created).kept = created.depth := by
  simp [kept, atCreation, frames, Thread.depth, Thread.frames, List.map_const']

/-- Frames that were there at first are never put back. -/
theorem kept_after_le (origins : FrameOrigins) (operation : Operation) :
    (origins.after operation).kept ≤ origins.kept := by
  cases operation with
  | enter callee =>
      rw [after]
      split
      · exact Nat.le_refl _
      · simp [kept, frames]
  | markTail | tailCall callee =>
      rw [after]
      split <;> exact Nat.le_refl _
  | exit =>
      rcases origins with ⟨top, below, pending⟩
      cases below with
      | nil => exact Nat.le_refl _
      | cons caller rest => exact List.count_le_count_cons
  | sample time => exact Nat.le_refl _

end FrameOrigins

namespace Thread

/-- A thread that was just made, afresh or from another one. -/
inductive Made : Thread → Prop where
  | start : Made .start
  | fork {parent : Thread} (reachable : parent.Reachable) : Made parent.fork

theorem Made.inherited_eq {created : Thread} (made : created.Made) :
    created.inherited = created.depth := by
  cases made with
  | start => rfl
  | fork reachable => rfl

theorem Made.tailPending_eq {created : Thread} (made : created.Made) :
    created.tailPending = false := by
  cases made with
  | start => rfl
  | fork reachable => rfl

theorem below_enter (thread : Thread) (callee : BlockId) :
    (thread.enter callee).below = if thread.tailPending then thread.below else thread.frames := by
  rw [enter, activate, push]
  split <;> split <;> rfl

theorem tailPending_enter (thread : Thread) (callee : BlockId) :
    (thread.enter callee).tailPending = false := by
  have settled : (thread.push callee).tailPending = false := by
    rw [push]
    split
    next => rfl
    next nested => simpa using nested
  rw [enter, activate]
  split <;> exact settled

theorem inherited_enter (thread : Thread) (callee : BlockId) :
    (thread.enter callee).inherited = thread.inherited := by
  rw [enter, activate, push]
  split <;> split <;> rfl

end Thread

namespace FrameOrigins

/-- The origins are those of the frames of a thread that was made as another one. -/
structure Describes (origins : FrameOrigins) (created thread : Thread) : Prop where
  below_length : origins.below.length = thread.below.length
  tailPending_eq : origins.tailPending = thread.tailPending
  inherited_eq : thread.inherited = created.depth
  kept_le : origins.kept ≤ created.depth

variable {origins : FrameOrigins} {created thread : Thread}

theorem describes_atCreation (made : created.Made) :
    (atCreation created).Describes created created where
  below_length := by simp [atCreation]
  tailPending_eq := made.tailPending_eq.symm
  inherited_eq := made.inherited_eq
  kept_le := Nat.le_of_eq (kept_atCreation created)

namespace Describes

theorem below_eq_nil (describes : origins.Describes created thread) :
    origins.below = [] ↔ thread.below = [] := by
  rw [← List.length_eq_zero_iff, describes.below_length, List.length_eq_zero_iff]

/-- A call puts a frame of the thread's own on top or stands in the innermost one. -/
theorem enter (describes : origins.Describes created thread) (callee : BlockId) :
    (origins.after (.enter callee)).Describes created (thread.enter callee) where
  below_length := by
    rw [after, Thread.below_enter, describes.tailPending_eq]
    split
    · exact describes.below_length
    · exact congrArg (· + 1) describes.below_length
  tailPending_eq := by
    rw [after, Thread.tailPending_enter]
    split <;> rfl
  inherited_eq := (Thread.inherited_enter thread callee).trans describes.inherited_eq
  kept_le := (origins.kept_after_le _).trans describes.kept_le

theorem markTail (describes : origins.Describes created thread) :
    Describes { origins with tailPending := true } created
      { thread with tailPending := true } where
  below_length := describes.below_length
  tailPending_eq := rfl
  inherited_eq := describes.inherited_eq
  kept_le := describes.kept_le

theorem exit (describes : origins.Describes created thread) {next : Thread}
    (returned : thread.exit = .ok next) : (origins.after .exit).Describes created next := by
  have kept_le := (origins.kept_after_le .exit).trans describes.kept_le
  rcases thread with ⟨top, below, active, slots, pending, inherited⟩
  rcases origins with ⟨origin, originsBelow, originsPending⟩
  have sameLength : originsBelow.length = below.length := describes.below_length
  cases below with
  | nil => cases returned
  | cons caller rest =>
      cases originsBelow with
      | nil => cases sameLength
      | cons outer others =>
          cases returned
          exact ⟨Nat.succ.inj sameLength, rfl, describes.inherited_eq, kept_le⟩

/-- The origins go along with the thread, whatever it is told. -/
theorem after (describes : origins.Describes created thread) (operation : Operation) :
    (origins.after operation).Describes created (thread.after operation) := by
  have outside := describes.below_eq_nil
  cases operation with
  | enter callee => exact describes.enter callee
  | markTail =>
      rw [FrameOrigins.after, Thread.after_markTail]
      by_cases below : thread.below = []
      · rwa [if_pos below, if_pos (outside.mpr below)]
      · rw [if_neg below, if_neg (outside.not.mpr below)]
        exact describes.markTail
  | tailCall callee =>
      rw [FrameOrigins.after, Thread.after_tailCall]
      by_cases below : thread.below = []
      · rwa [if_pos below, if_pos (outside.mpr below)]
      · rw [if_neg below, if_neg (outside.not.mpr below)]
        have entered := describes.markTail.enter callee
        rwa [FrameOrigins.after, if_pos rfl] at entered
  | exit =>
      cases returned : thread.exit with
      | ok next =>
          rw [Thread.after_exit returned]
          exact describes.exit returned
      | error violation =>
          have below := Thread.exit_refused_iff.mp ⟨violation, returned⟩
          have refused : thread.apply .exit = .error violation := returned
          rw [Thread.after_of_refused refused, FrameOrigins.after, outside.mpr below]
          exact describes
  | sample time => exact describes

theorem afterAll (describes : origins.Describes created thread) (operations : List Operation) :
    (origins.afterAll operations).Describes created (thread.afterAll operations) := by
  induction operations generalizing origins thread with
  | nil => exact describes
  | cons operation rest ih => exact ih (describes.after operation)

/-- Ending a thread reports as many calls as are open of its own, less the frames that it
returned from for its parent. -/
theorem close_eq (describes : origins.Describes created thread) :
    thread.close =
      if origins.own ≤ created.depth - origins.kept then .ok ()
      else .error (.openCalls (origins.own - (created.depth - origins.kept))) := by
  have depth_eq : thread.depth = origins.own + origins.kept := by
    rw [own_add_kept, describes.below_length]
    rfl
  have kept_le := describes.kept_le
  have open_eq : thread.openCalls = origins.own - (created.depth - origins.kept) := by
    rw [Thread.openCalls, depth_eq, describes.inherited_eq]
    omega
  rw [Thread.close, open_eq]
  simp only [Nat.sub_eq_zero_iff_le]

end Describes

/-- The report is right if the thread has no calls of its own open or is still above all frames
that it found. -/
theorem verdict_iff (origins : FrameOrigins) (left : Nat) :
    (if origins.own ≤ left then .ok () else .error (.openCalls (origins.own - left))) =
        origins.verdict ↔
      origins.own = 0 ∨ left = 0 := by
  rw [verdict]
  by_cases closed : origins.own = 0
  · simp [closed]
  · by_cases hidden : origins.own ≤ left
    · simp [closed, hidden]
      omega
    · simp [closed, hidden]
      omega

end FrameOrigins

namespace Thread

/-- **What ending a thread reports.**  Of the calls that a thread entered itself and did not
return from, as many go unreported as it left frames that were there when it was made.  So the
report is right exactly if one of the two numbers is zero. -/
theorem Made.close_afterAll {created : Thread} (made : created.Made)
    (operations : List Operation) :
    let origins := (FrameOrigins.atCreation created).afterAll operations
    let left := created.depth - origins.kept
    ((created.afterAll operations).close =
        if origins.own ≤ left then .ok () else .error (.openCalls (origins.own - left))) ∧
      ((created.afterAll operations).close = origins.verdict ↔ origins.own = 0 ∨ left = 0) := by
  intro origins left
  have closed : (created.afterAll operations).close =
      if origins.own ≤ left then .ok () else .error (.openCalls (origins.own - left)) :=
    ((FrameOrigins.describes_atCreation made).afterAll operations).close_eq
  refine ⟨closed, ?_⟩
  rw [closed]
  exact origins.verdict_iff left

/-- A thread forked two calls deep. -/
def deepFork : Thread :=
  ((start.after (.enter ⟨1⟩)).after (.enter ⟨2⟩)).fork

/-- The thread returns from one of the two calls that it found, has the other one replaced, and
enters three calls of its own. -/
def outgrow : List Operation :=
  [.exit, .tailCall ⟨3⟩, .enter ⟨1⟩, .enter ⟨2⟩, .enter ⟨3⟩]

theorem close_afterAll_outgrow :
    deepFork.Made ∧ ((FrameOrigins.atCreation deepFork).afterAll outgrow).own = 3 ∧
      (deepFork.afterAll outgrow).close = .error (.openCalls 2) := by
  have made : deepFork.Made := .fork (.after (.after .start _) _)
  have closed := (made.close_afterAll outgrow).1
  have own_eq : ((FrameOrigins.atCreation deepFork).afterAll outgrow).own = 3 := by cbv
  have kept_eq : ((FrameOrigins.atCreation deepFork).afterAll outgrow).kept = 2 := by cbv
  have depth_eq : deepFork.depth = 3 := by cbv
  simp only [own_eq, kept_eq, depth_eq] at closed
  exact ⟨made, own_eq, closed⟩

/-- A thread forked one call deep. -/
def shallowFork : Thread :=
  (start.after (.enter ⟨1⟩)).fork

/-- A thread that returns from a call that it found and then enters one ends without a report,
although its own call is open. -/
theorem not_close_eq_verdict :
    ¬ ∀ created : Thread, created.Made → ∀ operations : List Operation,
      (created.afterAll operations).close =
        ((FrameOrigins.atCreation created).afterAll operations).verdict := by
  intro detected
  have made : shallowFork.Made := .fork (.after .start _)
  have reported := detected shallowFork made [.exit, .enter ⟨2⟩]
  rw [((FrameOrigins.describes_atCreation made).afterAll _).close_eq,
    FrameOrigins.verdict_iff] at reported
  rcases reported with closed | stayed
  · have own_eq : ((FrameOrigins.atCreation shallowFork).afterAll [.exit, .enter ⟨2⟩]).own = 1 := by
      cbv
    rw [own_eq] at closed
    cases closed
  · have left_eq : shallowFork.depth -
        ((FrameOrigins.atCreation shallowFork).afterAll [.exit, .enter ⟨2⟩]).kept = 1 := by
      cbv
    rw [left_eq] at stayed
    cases stayed

end Thread

end CallLedger

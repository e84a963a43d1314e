import CallLedger.Proofs.Thread.Path

/-!
# Paths without recursion

A path enters every block as often as it leaves it, apart from its two ends.  As long as no
thread enters the root or a block that an active edge touches, the path of the calls in
progress passes every block at most once.  A sample then finds at most one call into a block
in progress and at most one out of it, and of a block that was entered there is none out of
it exactly if the block is executing.
-/

namespace CallLedger

/-- A path leaves a block as often as it enters it, counting its start and its end. -/
theorem countP_leaving_callsAlong (caller block : BlockId) (path : List BlockId) :
    (callsAlong caller path).countP (·.caller = block) +
        (if path.getLastD caller = block then 1 else 0) =
      (if caller = block then 1 else 0) +
        (callsAlong caller path).countP (·.callee = block) := by
  induction path generalizing caller with
  | nil => simp [callsAlong]
  | cons callee rest ih =>
      have later := ih callee
      rw [callsAlong, List.countP_cons, List.countP_cons, List.getLastD_cons]
      simp only [decide_eq_true_eq]
      omega

/-- A path that passes every block once makes every call once. -/
theorem nodup_callsAlong (caller : BlockId) {path : List BlockId} (distinct : path.Nodup) :
    (callsAlong caller path).Nodup := by
  apply List.Nodup.of_map Edge.callee
  rwa [map_callee_callsAlong]

/-- A path that passes every block once has no call from a block to itself. -/
theorem callee_ne_caller {caller : BlockId} {path : List BlockId}
    (distinct : (caller :: path).Nodup) :
    ∀ call ∈ callsAlong caller path, call.callee ≠ call.caller := by
  induction path generalizing caller with
  | nil =>
      intro call member
      cases member
  | cons callee rest ih =>
      rcases List.nodup_cons.mp distinct with ⟨fresh, restDistinct⟩
      intro call member
      rcases List.mem_cons.mp member with rfl | later
      · intro same
        have again : callee = caller := same
        exact fresh (again ▸ List.mem_cons_self)
      · exact ih restDistinct call later

/-- Where some calls lead: to the block called last, or nowhere but to the root. -/
def endOf (calls : List Edge) : BlockId :=
  (calls.map Edge.callee).getLastD .root

@[simp] theorem endOf_callsAlong (path : List BlockId) :
    endOf (callsAlong .root path) = path.getLastD .root := by
  rw [endOf, map_callee_callsAlong]

namespace ThreadHistory

variable {history : ThreadHistory}

/-- No block was entered again while a call into it was in progress, and the root never
was. -/
def Straight (history : ThreadHistory) : Prop :=
  (BlockId.root :: history.inProgress.map Edge.callee).Nodup

/-- A block that is neither the root nor an end of a call in progress. -/
def Idle (history : ThreadHistory) (block : BlockId) : Prop :=
  block ≠ .root ∧ ∀ edge ∈ history.inProgress, edge.caller ≠ block ∧ edge.callee ≠ block

instance (history : ThreadHistory) : DecidablePred history.Idle :=
  fun _ => inferInstanceAs (Decidable (_ ∧ _))

/-- An operation that enters a block only if it is idle. -/
def EntersIdle (history : ThreadHistory) (operation : Operation) : Prop :=
  ∀ call ∈ Activity.calls (history.activity operation), history.Idle call.callee

instance (history : ThreadHistory) : DecidablePred history.EntersIdle :=
  fun _ => inferInstanceAs (Decidable (∀ call ∈ _, _))

namespace Straight

theorem start : ThreadHistory.start.Straight :=
  List.nodup_singleton _

theorem fork (straight : history.Straight) : history.fork.Straight :=
  straight

theorem enter (straight : history.Straight) {callee : BlockId} (idle : history.Idle callee) :
    (history.enter callee).Straight := by
  have fresh : callee ∉ BlockId.root :: history.inProgress.map Edge.callee := by
    rw [List.mem_cons, List.mem_map, not_or]
    refine ⟨idle.1, ?_⟩
    rintro ⟨edge, running, same⟩
    exact (idle.2 edge running).2 same
  rw [Straight, inProgress_enter, List.map_append, ← List.cons_append]
  refine List.nodup_append.mpr ⟨straight, List.nodup_singleton _, ?_⟩
  intro block passed other last equal
  rw [equal, List.mem_singleton.mp last] at passed
  exact fresh passed

theorem exit (straight : history.Straight) : history.exit.Straight := by
  rcases history with ⟨top, below, pending, inherited⟩
  cases below with
  | nil => exact straight
  | cons caller rest =>
      rw [Straight, inProgress, frames, FrameHistory.allCalls_cons, List.map_append,
        ← List.cons_append] at straight
      exact (List.nodup_append.mp straight).1

/-- Operations that enter idle blocks alone keep a path straight. -/
theorem after (straight : history.Straight) {operation : Operation}
    (idle : history.EntersIdle operation) : (history.after operation).Straight := by
  cases operation with
  | enter callee => exact straight.enter (idle _ (List.mem_singleton_self _))
  | markTail =>
      rw [ThreadHistory.after]
      split
      · exact straight
      · exact straight
  | tailCall callee =>
      rw [EntersIdle, activity] at idle
      rw [ThreadHistory.after]
      split
      next => exact straight
      next called =>
        rw [if_neg called] at idle
        have marked : history.markTail.Straight := straight
        exact marked.enter (idle _ (List.mem_singleton_self _))
  | exit => exact straight.exit
  | sample time => exact straight

end Straight

end ThreadHistory

namespace Activity

/-- No call goes into the root, and a sample finds the calls along a path in progress that
passes every block once. -/
def Straight : Activity → Prop
  | entered call => call.callee ≠ .root
  | sampled inProgress _ =>
      ∃ path, inProgress = callsAlong .root path ∧ (BlockId.root :: path).Nodup

theorem Straight.alongPath {activity : Activity} (straight : activity.Straight) :
    activity.AlongPath := by
  cases activity with
  | entered call => trivial
  | sampled inProgress time =>
      rcases straight with ⟨path, along, _⟩
      exact ⟨path, along⟩

/-- Time that was sampled while a block was executing: the calls in progress led to it. -/
def timeAt (block : BlockId) : Activity → Nat
  | entered _ => 0
  | sampled inProgress time => if endOf inProgress = block then time.value else 0

/-- Time that was sampled in a log while a block was executing. -/
def totalTimeAt (block : BlockId) (log : List Activity) : Nat :=
  (log.map (timeAt block)).sum

@[simp] theorem totalTimeAt_append (block : BlockId) (first second : List Activity) :
    totalTimeAt block (first ++ second) = totalTimeAt block first + totalTimeAt block second := by
  simp [totalTimeAt]

end Activity

namespace Thread

/-- A block that is neither the root nor an end of an active edge. -/
def Idle (thread : Thread) (block : BlockId) : Prop :=
  block ≠ .root ∧ ∀ edge ∈ thread.active.toList, edge.caller ≠ block ∧ edge.callee ≠ block

/-- The block that an operation enters, if it enters one. -/
def entered? (thread : Thread) : Operation → Option BlockId
  | .enter callee => some callee
  | .tailCall callee => if thread.below = [] then none else some callee
  | .markTail | .exit | .sample _ => none

/-- An operation that enters a block only if it is idle. -/
def EntersIdle (thread : Thread) (operation : Operation) : Prop :=
  ∀ callee, thread.entered? operation = some callee → thread.Idle callee

variable {thread : Thread} {history : ThreadHistory}

theorem Follows.idle_iff (follows : thread.Follows history) (block : BlockId) :
    thread.Idle block ↔ history.Idle block := by
  simp only [Idle, ThreadHistory.Idle, follows.active_eq, List.mem_eraseDups]

theorem Follows.calls_activity (follows : thread.Follows history) (operation : Operation) :
    (Activity.calls (history.activity operation)).map Edge.callee =
      (thread.entered? operation).toList := by
  cases operation with
  | enter callee => rfl
  | tailCall callee =>
      rw [ThreadHistory.activity, entered?]
      simp only [follows.below_eq_nil]
      split <;> rfl
  | markTail | exit | sample => rfl

theorem Follows.entersIdle_iff (follows : thread.Follows history) (operation : Operation) :
    thread.EntersIdle operation ↔ history.EntersIdle operation := by
  have entered := follows.calls_activity operation
  simp only [EntersIdle, ThreadHistory.EntersIdle, ← Option.mem_toList, ← entered,
    List.mem_map, forall_exists_index, and_imp, forall_apply_eq_imp_iff₂, follows.idle_iff]

end Thread

/-- A thread reports calls into idle blocks and samples of straight paths. -/
theorem ThreadHistory.Straight.reports {history : ThreadHistory} (straight : history.Straight)
    (connected : history.Connected) {operation : Operation}
    (idle : history.EntersIdle operation) {activity : Activity}
    (reported : activity ∈ history.activity operation) : activity.Straight := by
  cases activity with
  | entered call =>
      have made : call ∈ Activity.calls (history.activity operation) :=
        List.mem_filterMap.mpr ⟨_, reported, rfl⟩
      exact (idle call made).1
  | sampled inProgress time =>
      have running : inProgress = history.inProgress := by
        cases operation with
        | enter callee => simp [activity] at reported
        | tailCall callee =>
            rw [ThreadHistory.activity] at reported
            split at reported <;> simp at reported
        | sample other =>
            cases List.mem_singleton.mp reported
            rfl
        | markTail | exit => cases reported
      rcases connected.path with ⟨path, along, _⟩
      refine ⟨path, running.trans along, ?_⟩
      rwa [Straight, along, map_callee_callsAlong] at straight

end CallLedger

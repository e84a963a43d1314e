import CallLedger.Proofs.Run.Conservation
import CallLedger.Proofs.Thread.Straight

/-!
# Time of a block's own

The time that a block has to itself is worked out from merged edges: the time of all calls
into it, less the time of all calls out of it.  Without recursion, every sample that finds a
call into the block in progress finds a call out of it as well, unless the block is executing.
What is left is then the time that was sampled while the block was executing, also where it
was replaced by tail calls, called by several blocks or entered by several threads, and the
blocks divide the whole time of the run among them.
-/

namespace CallLedger

open Activity
open Session (ThreadId)

namespace Activity

variable {log : List Activity}

theorem timeAmong_of_nodup {inProgress : List Edge} (distinct : inProgress.Nodup)
    (selects : Edge → Bool) (time : Count) :
    timeAmong selects (.sampled inProgress time) = inProgress.countP selects * time.value := by
  rw [timeAmong, eraseDups_of_nodup (distinct.filter _), List.countP_eq_length_filter]

/-- Time that was sampled while a block was on the path, the root being on every path. -/
def timeThrough (block : BlockId) (activity : Activity) : Nat :=
  (if block = .root then activity.time else 0) + timeAmong (·.callee = block) activity

/-- Time that was sampled in a log while a block was on the path. -/
def totalTimeThrough (block : BlockId) (log : List Activity) : Nat :=
  (log.map (timeThrough block)).sum

namespace Straight

variable {activity : Activity} (straight : activity.Straight) (block : BlockId)

include straight

/-- A block on the path called another one, or is executing. -/
theorem timeAmong_leadsAway :
    timeAmong (Edge.leadsAway block) activity + timeAt block activity =
      timeThrough block activity := by
  cases activity with
  | entered call => simp [timeAmong, timeAt, timeThrough, Activity.time]
  | sampled inProgress time =>
      rcases straight with ⟨path, rfl, distinct⟩
      have callsDistinct := nodup_callsAlong .root distinct.of_cons
      have away : (callsAlong .root path).countP (Edge.leadsAway block) =
          (callsAlong .root path).countP (·.caller = block) := by
        apply List.countP_congr
        intro call running
        have elsewhere := callee_ne_caller distinct call running
        simp only [Edge.leadsAway, Bool.and_eq_true, decide_eq_true_eq,
          bne_iff_ne]
        constructor
        · exact And.left
        · rintro rfl
          exact ⟨rfl, elsewhere⟩
      have balance := congrArg (· * time.value)
        (countP_leaving_callsAlong .root block path)
      simp only [Nat.add_mul, ite_mul, Nat.one_mul, Nat.zero_mul] at balance
      simp only [eq_comm (a := BlockId.root)] at balance
      simp only [timeAt, timeThrough, Activity.time, timeAmong_of_nodup callsDistinct,
        endOf_callsAlong, away, balance]

/-- A path passes a block at most once. -/
theorem timeThrough_le : timeThrough block activity ≤ activity.time := by
  cases activity with
  | entered call => simp [timeAmong, timeThrough, Activity.time]
  | sampled inProgress time =>
      rcases straight with ⟨path, rfl, distinct⟩
      have callsDistinct := nodup_callsAlong .root distinct.of_cons
      have passed : (callsAlong .root path).countP (·.callee = block) = path.count block := by
        conv_rhs => rw [← map_callee_callsAlong .root path, List.count, List.countP_map]
        rfl
      have once := List.nodup_iff_count_le_one.mp distinct block
      rw [List.count_cons] at once
      rw [timeThrough, timeAmong_of_nodup callsDistinct, passed, Activity.time]
      split
      next root =>
        subst root
        simp only [BEq.rfl, if_true] at once
        have absent : path.count .root = 0 := by omega
        rw [absent]
        omega
      next =>
        have below := Nat.mul_le_mul_right time.value (Nat.le_of_add_right_le once)
        omega

end Straight

section Log

variable (straight : ∀ activity ∈ log, activity.Straight) (block : BlockId)

include straight

theorem totalTimeAmong_leadsAway :
    totalTimeAmong (Edge.leadsAway block) log + totalTimeAt block log =
      totalTimeThrough block log := by
  rw [totalTimeAmong, totalTimeAt, totalTimeThrough, ← List.sum_map_add]
  congr 1
  apply List.map_congr_left
  intro activity member
  exact (straight activity member).timeAmong_leadsAway block

theorem totalTimeThrough_le : totalTimeThrough block log ≤ totalSampled log := by
  apply List.sum_le_sum
  intro activity member
  exact (straight activity member).timeThrough_le block

end Log

theorem totalTimeThrough_eq (block : BlockId) (log : List Activity) :
    totalTimeThrough block log =
      (if block = .root then totalSampled log else 0) +
        totalTimeAmong (·.callee = block) log := by
  have split : timeThrough block = fun activity =>
      (if block = .root then activity.time else 0) + timeAmong (·.callee = block) activity := rfl
  rw [totalTimeThrough, totalTimeAmong, totalSampled, split, List.sum_map_add]
  by_cases root : block = .root
  · simp [root]
  · simp [root]

theorem Straight.noneIntoRoot (straight : ∀ activity ∈ log, activity.Straight) :
    ∀ call ∈ calls log, call.callee ≠ .root := by
  intro call called
  rcases List.mem_filterMap.mp called with ⟨activity, member, made⟩
  cases activity with
  | entered other =>
      cases made
      exact straight _ member
  | sampled inProgress time => cases made

/-- The root is on every path. -/
theorem totalTimeThrough_root (straight : ∀ activity ∈ log, activity.Straight) :
    totalTimeThrough .root log = totalSampled log := by
  apply Nat.le_antisymm (totalTimeThrough_le straight .root)
  rw [totalTimeThrough_eq, if_pos rfl]
  exact Nat.le_add_right ..

/-- Every sample was taken while some block was executing. -/
theorem sum_totalTimeAt {ids : List BlockId} (distinct : ids.Nodup)
    (listed : ∀ inProgress time, .sampled inProgress time ∈ log → endOf inProgress ∈ ids) :
    (ids.map fun id => totalTimeAt id log).sum = totalSampled log := by
  induction log with
  | nil => simp [totalTimeAt, totalSampled]
  | cons activity rest ih =>
      have restListed := ih fun inProgress time member =>
        listed inProgress time (List.mem_cons_of_mem _ member)
      have first : (ids.map fun id => timeAt id activity).sum = activity.time := by
        cases activity with
        | entered call => simp [timeAt, Activity.time]
        | sampled inProgress time =>
            have only := sum_map_ite ids (endOf inProgress == ·) time.value
            have once := List.count_eq_one_of_mem distinct
              (listed inProgress time List.mem_cons_self)
            rw [List.count, List.countP_eq_length_filter] at once
            simp only [beq_iff_eq] at only
            simp only [timeAt, Activity.time, only]
            simp only [BEq.comm (a := endOf inProgress), once, Nat.one_mul]
      simp only [totalTimeAt, totalSampled, List.map_cons, List.sum_cons, List.sum_map_add]
        at restListed ⊢
      rw [first, restListed]

end Activity
namespace Profile

/-- The blocks of a profile divide its time among them, each having what was spent in it. -/
structure Partitions (profile : Profile) (spent : BlockId → Nat) : Prop where
  /-- A block has to itself the time that was spent in it. -/
  selfTime_eq : ∀ id block, profile.get? id = some block → block.selfTime.value = spent id
  /-- It is what exactly remains of its time: neither the sum over its callees nor the
  difference is clamped. -/
  time_eq : ∀ id block, profile.get? id = some block →
    ((block.callees.filter (·.id != id)).map (·.time.value)).sum + block.selfTime.value =
      block.time.value
  /-- No time was spent in blocks that the profile does not have. -/
  elsewhere : ∀ id, profile.get? id = none → spent id = 0
  /-- Together the blocks have the total. -/
  total_eq : (profile.blocks.map (·.selfTime.value)).sum = profile.totalTime.value

section Log

open CallGraph

variable {profile : Profile} {log : List Activity} {size : Nat}

/-- Where a sample was taken, there is a block in the profile. -/
theorem Reflects.exists_end
    (reflects : profile.Reflects ((ofSize size).updateAll (log.flatMap requests)))
    (grounded : Grounded log) {inProgress : List Edge} {time : Count}
    (listed : .sampled inProgress time ∈ log) :
    ∃ block, profile.get? (endOf inProgress) = some block := by
  cases inProgress using List.reverseRecOn with
  | nil => exact ⟨profile.root, rfl⟩
  | append_singleton earlier last =>
      have made := grounded.made_of_sampled listed last (by simp)
      have leads : endOf (earlier ++ [last]) = last.callee := by simp [endOf]
      rw [leads]
      exact reflects.get?_of_lt (lt_size_of_mem_calls grounded size made).2

/-- Without recursion a block has the time of the samples that found it on the path. -/
theorem Reflects.time_of_straight
    (reflects : profile.Reflects ((ofSize size).updateAll (log.flatMap requests)))
    (grounded : Grounded log) (straight : ∀ activity ∈ log, activity.Straight) {id : BlockId}
    {block : BlockProfile} (found : profile.get? id = some block) :
    block.time = .ofNat (totalTimeThrough id log) := by
  by_cases root : id = .root
  · subst root
    have along : ∀ activity ∈ log, activity.AlongPath :=
      fun activity member => (straight activity member).alongPath
    have conserves := reflects.conserves grounded along (Straight.noneIntoRoot straight)
    rw [totalTimeThrough_root straight, ← Option.some.inj found]
    exact conserves.totalTime_eq
  · rw [totalTimeThrough_eq, if_neg root, Nat.zero_add]
    exact reflects.time_of_log grounded found root

/-- Without recursion, and unless the total exceeds the limit, a profile divides the time of
the log from which its graph was built. -/
theorem Reflects.partitions
    (reflects : profile.Reflects ((ofSize size).updateAll (log.flatMap requests)))
    (grounded : Grounded log) (straight : ∀ activity ∈ log, activity.Straight)
    (inRange : totalSampled log ≤ Count.limit) :
    profile.Partitions fun block => totalTimeAt block log := by
  have divided : ∀ id block, profile.get? id = some block →
      ((block.callees.filter (·.id != id)).map (·.time.value)).sum =
          totalTimeAmong (Edge.leadsAway id) log ∧
        block.time.value = totalTimeThrough id log ∧
        block.selfTime.value = totalTimeAt id log := by
    intro id block found
    have through := totalTimeAmong_leadsAway straight id
    have bound := (totalTimeThrough_le straight id).trans inRange
    have time_eq : block.time.value = totalTimeThrough id log := by
      rw [reflects.time_of_straight grounded straight found, Count.value_ofNat]
      exact Nat.min_eq_left bound
    obtain ⟨away, total, times⟩ := reflects.callees_of_log grounded found
    have exact_sum : ((block.callees.filter (·.id != id)).map (·.time.value)).sum =
        totalTimeAmong (Edge.leadsAway id) log := by
      rw [times, ← total]
      apply Count.sum_value_ofNat
      omega
    refine ⟨exact_sum, time_eq, ?_⟩
    rw [reflects.selfTime_of_log grounded found, Count.value_sub, Count.value_ofNat, time_eq,
      Nat.min_eq_left (by omega)]
    omega
  constructor
  case selfTime_eq =>
    intro id block found
    exact (divided id block found).2.2
  case time_eq =>
    intro id block found
    obtain ⟨away, time_eq, own⟩ := divided id block found
    rw [away, time_eq, own]
    exact totalTimeAmong_leadsAway straight id
  case elsewhere =>
    intro id absent
    apply List.sum_eq_zero
    intro amount member
    rcases List.mem_map.mp member with ⟨activity, listed, rfl⟩
    cases activity with
    | entered call => rfl
    | sampled inProgress time =>
        rcases reflects.exists_end grounded listed with ⟨block, found⟩
        apply if_neg
        rintro rfl
        rw [absent] at found
        cases found
  case total_eq =>
    have own : profile.blocks.map (·.selfTime.value) =
        (profile.blocks.map (·.id)).map fun id => totalTimeAt id log := by
      rw [List.map_map]
      apply List.map_congr_left
      intro block member
      exact (divided block.id block (reflects.numbered.mem_blocks.mp member)).2.2
    rw [own, sum_totalTimeAt reflects.numbered.nodup_ids, totalTime,
      (divided .root profile.root rfl).2.1,
      totalTimeThrough_root straight]
    intro inProgress time listed
    rcases reflects.exists_end grounded listed with ⟨block, found⟩
    have named := reflects.id_eq _ block found
    rw [← named] at found ⊢
    exact List.mem_map_of_mem (reflects.numbered.mem_blocks.mpr found)

end Log

end Profile

namespace RunHistory

/-- Threads that enter idle blocks alone take straight paths. -/
theorem straight_of_obeys {steps : List RunStep}
    (obeys : Obeys steps ThreadHistory.EntersIdle) :
    ∀ activity ∈ (ofSteps steps).log, activity.Straight := by
  have kept := @forall_of_obeys (fun own => own.Straight ∧ own.Connected) Activity.Straight
    ThreadHistory.EntersIdle ⟨.start, .start⟩ (fun _ both => ⟨both.1.fork, both.2.fork⟩)
    (fun _ operation both idle => ⟨both.1.after idle, both.2.after operation⟩)
    (fun _ _ both idle _ reported => both.1.reports both.2 idle reported) steps obeys
  exact kept.2

end RunHistory

namespace Session

variable {session : Session} {size : Nat} {history : RunHistory}

/-- A step that enters a block only if the block is idle: it is not the root, and no active
edge of the thread that enters it begins or ends there. -/
def EntersIdle (session : Session) : RunStep → Prop
  | .operate id operation =>
      ∀ thread, session.thread? id = some thread → thread.EntersIdle operation
  | .start | .fork _ => True

/-- A run without recursion: every step finds the block that it enters idle. -/
def RunsStraight (session : Session) (steps : List RunStep) : Prop :=
  ∀ moment ∈ RunStep.moments perform session steps, moment.1.EntersIdle moment.2

/-- Time that a step samples while its thread is executing a block. -/
def spentIn (session : Session) (block : BlockId) : RunStep → Nat
  | .operate id (.sample time) =>
      match session.thread? id with
      | some thread => if thread.current = block then time.value else 0
      | none => 0
  | _ => 0

/-- Time that a run samples in a block, by whatever thread. -/
def totalSpentIn (session : Session) (steps : List RunStep) (block : BlockId) : Nat :=
  ((RunStep.moments perform session steps).map fun moment =>
    moment.1.spentIn block moment.2).sum

theorem Follows.entersIdle_iff (follows : session.Follows size history) (step : RunStep) :
    session.EntersIdle step ↔ history.Permits ThreadHistory.EntersIdle step := by
  cases step with
  | start | fork => exact Iff.rfl
  | operate id operation =>
      cases found : history.threads[id]? with
      | none =>
          have absent := follows.absent found
          simp [EntersIdle, RunHistory.Permits, found, absent]
      | some own =>
          rcases follows.threads id own found with ⟨thread, alive, threadFollows⟩
          simp [EntersIdle, RunHistory.Permits, found, alive, threadFollows.entersIdle_iff]

/-- Whether a run is without recursion can be told from its history. -/
theorem runsStraight_iff (registry : Registry) (size : Nat) (steps : List RunStep) :
    (vacant registry (.ofSize size)).RunsStraight steps ↔
      RunHistory.Obeys steps ThreadHistory.EntersIdle := by
  induction steps using List.reverseRecOn with
  | nil => simp [RunsStraight, RunHistory.Obeys, RunStep.moments]
  | append_singleton steps step ih =>
      have last := (follows_performAll registry size steps).entersIdle_iff step
      rw [RunHistory.obeys_concat, ← ih, ← last]
      simp only [RunsStraight, RunStep.moments_concat, List.forall_mem_append,
        List.forall_mem_singleton]
      rfl

theorem Follows.spentIn_eq (follows : session.Follows size history)
    (connected : ∀ own ∈ history.threads, own.Connected) {id : ThreadId}
    {own : ThreadHistory} (found : history.threads[id]? = some own) (operation : Operation)
    (block : BlockId) :
    session.spentIn block (.operate id operation) =
      totalTimeAt block (own.activity operation) := by
  cases operation with
  | enter callee => rfl
  | tailCall callee =>
      rw [ThreadHistory.activity]
      split <;> rfl
  | markTail | exit => rfl
  | sample time =>
      rcases follows.threads id own found with ⟨thread, alive, threadFollows⟩
      rcases (connected own (List.mem_of_getElem? found)).path with ⟨path, along, current_eq⟩
      have executing : endOf own.inProgress = thread.current := by
        rw [along, endOf_callsAlong, ← current_eq, threadFollows.current_eq]
      simp [spentIn, alive, ThreadHistory.activity, totalTimeAt, timeAt, executing]

/-- What a run spends in a block is what its log has for it. -/
theorem totalSpentIn_eq (registry : Registry) (size : Nat) (steps : List RunStep)
    (block : BlockId) :
    (vacant registry (.ofSize size)).totalSpentIn steps block =
      totalTimeAt block (RunHistory.ofSteps steps).log := by
  induction steps using List.reverseRecOn with
  | nil => rfl
  | append_singleton steps step ih =>
      have follows := follows_performAll registry size steps
      have connected := (RunHistory.connected_ofSteps steps).1
      have last : (vacant registry (.ofSize size)).totalSpentIn (steps ++ [step]) block =
          totalTimeAt block (RunHistory.ofSteps steps).log +
            ((vacant registry (.ofSize size)).performAll steps).spentIn block step := by
        rw [← ih, totalSpentIn, totalSpentIn, RunStep.moments_concat, List.map_append,
          List.sum_append]
        rfl
      rw [last, RunHistory.ofSteps_concat]
      cases step with
      | start => rfl
      | fork id =>
          rw [RunHistory.step]
          split <;> rfl
      | operate id operation =>
          cases found : (RunHistory.ofSteps steps).threads[id]? with
          | some own =>
              simp only [RunHistory.step, found, totalTimeAt_append,
                follows.spentIn_eq connected found]
          | none =>
              have absent := follows.absent found
              simp only [RunHistory.step, found]
              cases operation <;> simp [spentIn, absent]

/-- **Self times partition a run without recursion.**  Whatever threads are started and
forked and however their operations interleave, tail calls included: if no thread enters the
root or a block that its active path touches, and the time that was sampled does not exceed
the limit, then every block has to itself the time that was sampled while it was executing,
and together the blocks have the whole time of the run. -/
theorem performAll_partitions (registry blocks : Registry) (size : Nat) (steps : List RunStep)
    (covered : blocks.size ≤ ((vacant registry (.ofSize size)).performAll steps).graph.size)
    (straight : (vacant registry (.ofSize size)).RunsStraight steps)
    (inRange : totalSampled (RunHistory.ofSteps steps).log ≤ Count.limit) :
    ∃ profile, Profile.compute ((vacant registry (.ofSize size)).performAll steps).graph blocks =
        .ok profile ∧
      profile.Partitions ((vacant registry (.ofSize size)).totalSpentIn steps) := by
  rcases compute_performAll registry blocks size steps covered with
    ⟨profile, computed, reflects⟩
  have spent_eq : (vacant registry (.ofSize size)).totalSpentIn steps =
      fun block => totalTimeAt block (RunHistory.ofSteps steps).log := by
    funext block
    exact totalSpentIn_eq registry size steps block
  have obeys := (runsStraight_iff registry size steps).mp straight
  refine ⟨profile, computed, ?_⟩
  rw [spent_eq]
  exact reflects.partitions (RunHistory.grounded_ofSteps steps).log
    (RunHistory.straight_of_obeys obeys) inRange

/-- A chain of tail calls under a block that goes on to call others, a thread that is forked in
the middle of the chain and leaves it, and a block that is called from two places. -/
def relay : List RunStep :=
  [.start, .operate 0 (.sample 1), .operate 0 (.enter ⟨1⟩), .operate 0 (.sample 10),
    .operate 0 (.enter ⟨2⟩), .operate 0 .markTail, .operate 0 (.sample 20),
    .operate 0 (.enter ⟨3⟩), .fork 0, .operate 1 (.sample 30), .operate 1 .exit,
    .operate 1 (.enter ⟨4⟩), .operate 1 (.sample 40), .operate 0 (.tailCall ⟨4⟩),
    .operate 0 (.sample 50), .operate 0 .exit, .operate 0 (.enter ⟨2⟩),
    .operate 0 (.sample 60)]

theorem performAll_partitions_relay :
    ∃ profile, Profile.compute ((vacant .empty (.ofSize 2)).performAll relay).graph
        ⟨[⟨"relay", .unknown⟩]⟩ = .ok profile ∧
      profile.Partitions ((vacant .empty (.ofSize 2)).totalSpentIn relay) :=
  performAll_partitions .empty ⟨[⟨"relay", .unknown⟩]⟩ 2 relay
    (size_le_performAll .empty 2 relay) ((runsStraight_iff .empty 2 relay).mpr (by decide))
    (by decide)

end Session

end CallLedger

import CallLedger.Proofs.Graph.Numbering
import CallLedger.Proofs.Run.Accounting
import CallLedger.Proofs.Run.Totals

/-!
# What a profile of a run conserves

Unless calls go into the root, a thread that is inside of a call has left the root by exactly
one of the edges in progress.  A sample is then in the total of the profile once, whatever
recursion, tail calls and forks made of the thread, and every call is counted at the block
that it was made into.  Also where calls do go into the root, a call never takes longer than
the block that made it.
-/

namespace CallLedger

open Activity

theorem RunHistory.connected_ofSteps (steps : List RunStep) :
    (∀ own ∈ (ofSteps steps).threads, own.Connected) ∧
      ∀ activity ∈ (ofSteps steps).log, activity.AlongPath :=
  forall_ofSteps ThreadHistory.Connected.start (fun _ => ThreadHistory.Connected.fork)
    (fun _ operation connected => connected.after operation)
    (fun _ _ connected _ => connected.alongPath) steps

theorem RunHistory.alongPath_ofSteps (steps : List RunStep) :
    ∀ activity ∈ (ofSteps steps).log, activity.AlongPath :=
  (connected_ofSteps steps).2

namespace Activity

/-- Time that was sampled. -/
def time : Activity → Nat
  | entered _ => 0
  | sampled _ time => time.value

/-- Time that was sampled in a log. -/
def totalSampled (log : List Activity) : Nat :=
  (log.map time).sum

variable {log : List Activity}

theorem Grounded.made_of_sampled (grounded : Grounded log) {inProgress : List Edge}
    {time : Count} (listed : .sampled inProgress time ∈ log) :
    ∀ edge ∈ inProgress, edge ∈ calls log := by
  intro edge running
  induction grounded with
  | nil => cases listed
  | @entered log _ call ih =>
      rw [calls_append]
      apply List.mem_append_left
      apply ih
      simpa using listed
  | @sampled log _ others made otherTime ih =>
      rw [calls_append]
      apply List.mem_append_left
      rcases List.mem_append.mp listed with old | new
      · exact ih old
      · cases List.mem_singleton.mp new
        exact made edge running

/-- Where no call goes into the root, every sample is outside of calls or finds one edge
that leaves the root. -/
theorem totalTimeOutside_add_totalTimeAmong (grounded : Grounded log)
    (along : ∀ activity ∈ log, activity.AlongPath)
    (noneIntoRoot : ∀ call ∈ calls log, call.callee ≠ .root) :
    totalTimeOutside log + totalTimeAmong (·.caller = .root) log = totalSampled log := by
  rw [totalTimeOutside, totalTimeAmong, totalSampled, ← List.sum_map_add]
  congr 1
  apply List.map_congr_left
  intro activity member
  cases activity with
  | entered call => rfl
  | sampled inProgress time =>
      have made := grounded.made_of_sampled member
      rcases along _ member with ⟨path, rfl⟩
      cases path with
      | nil => simp [callsAlong, timeOutside, timeAmong, Activity.time]
      | cons first rest =>
          have noReturn : BlockId.root ∉ first :: rest := by
            rw [← map_callee_callsAlong .root (first :: rest), List.mem_map]
            rintro ⟨call, running, intoRoot⟩
            exact noneIntoRoot call (made call running) intoRoot
          rw [timeAmong, filter_leaving_callsAlong noReturn]
          simp [callsAlong, timeOutside, Activity.time, List.eraseDups_cons]

/-- A sample of an edge finds an edge in progress that leaves the root. -/
theorem totalTimeOn_le_leaving (along : ∀ activity ∈ log, activity.AlongPath) (edge : Edge) :
    totalTimeOn edge log ≤ totalTimeAmong (·.caller = .root) log := by
  apply totalTimeOn_le_totalTimeAmong
  intro inProgress time member running
  rcases along _ member with ⟨path, rfl⟩
  cases path with
  | nil => cases running
  | cons first rest => exact ⟨⟨.root, first⟩, List.mem_cons_self, decide_eq_true rfl⟩

/-- A sample of an edge from another block finds an edge into that block in progress. -/
theorem totalTimeOn_le_entering (along : ∀ activity ∈ log, activity.AlongPath) {edge : Edge}
    (inner : edge.caller ≠ .root) :
    totalTimeOn edge log ≤ totalTimeAmong (·.callee = edge.caller) log := by
  apply totalTimeOn_le_totalTimeAmong
  intro inProgress time member running
  rcases along _ member with ⟨path, rfl⟩
  rcases exists_call_before running inner with ⟨before, beforeRunning, leadsIn⟩
  exact ⟨before, beforeRunning, decide_eq_true leadsIn⟩

end Activity

namespace Profile

theorem Reflects.numbered {profile : Profile} {graph : CallGraph}
    (reflects : profile.Reflects graph) : profile.Numbered :=
  reflects.id_eq

/-- A profile conserves what is in a log of calls and samples. -/
structure Conserves (profile : Profile) (log : List Activity) : Prop where
  /-- The total has all time that was sampled, and has it once. -/
  totalTime_eq : profile.totalTime = .ofNat (totalSampled log)
  /-- A block other than the root counts the calls into it, tail calls included. -/
  count_eq : ∀ id block, profile.get? id = some block → id ≠ .root →
    block.count = .ofNat ((calls log).countP (·.callee = id))
  /-- Every block that was entered is in the profile. -/
  entered : ∀ call ∈ calls log, ∃ block, profile.get? call.callee = some block
  /-- The root and the distinct blocks that were entered are covered, and no others. -/
  covered_eq : profile.covered = ((calls log).map Edge.callee).eraseDups.length + 1

/-- In a profile every call is contained in the block that made it and in the total. -/
def ContainsCalls (profile : Profile) (graph : CallGraph) : Prop :=
  ∀ edge call, graph.call? edge = some call →
    ∃ caller, profile.get? edge.caller = some caller ∧
      call.time ≤ caller.time ∧ call.time ≤ profile.totalTime

section Log

open CallGraph

variable {profile : Profile} {log : List Activity} {size : Nat}

theorem Reflects.get?_of_lt {graph : CallGraph} (reflects : profile.Reflects graph)
    {id : BlockId} (inside : id.index < graph.size) : ∃ block, profile.get? id = some block := by
  rw [← reflects.size_eq] at inside
  exact ⟨_, List.getElem?_eq_getElem inside⟩

/-- A block other than the root ran if and only if a call was made into it. -/
theorem Reflects.count_pos_iff
    (reflects : profile.Reflects ((ofSize size).updateAll (log.flatMap requests)))
    (grounded : Grounded log) {id : BlockId} {block : BlockProfile}
    (found : profile.get? id = some block) (notRoot : id ≠ .root) :
    0 < block.count ↔ ∃ call ∈ calls log, call.callee = id := by
  have some_called : 0 < (calls log).countP (·.callee = id) ↔
      ∃ call ∈ calls log, call.callee = id := by
    simp [List.countP_pos_iff]
  rw [reflects.count_of_log grounded found notRoot, ← some_called, Count.lt_iff,
    Count.value_ofNat, Count.value_zero, Count.limit]
  omega

private theorem covered_of_log
    (reflects : profile.Reflects ((ofSize size).updateAll (log.flatMap requests)))
    (grounded : Grounded log) (noneIntoRoot : ∀ call ∈ calls log, call.callee ≠ .root) :
    profile.covered = ((calls log).map Edge.callee).eraseDups.length + 1 := by
  have distinct : ((profile.blocks.filter (0 < ·.count)).map (·.id)).Nodup :=
    reflects.numbered.nodup_ids.sublist (List.filter_sublist.map _)
  have rootApart : BlockId.root ∉ ((calls log).map Edge.callee).eraseDups := by
    rw [List.mem_eraseDups, List.mem_map]
    rintro ⟨call, called, intoRoot⟩
    exact noneIntoRoot call called intoRoot
  have same : ((profile.blocks.filter (0 < ·.count)).map (·.id)).Perm
      (.root :: ((calls log).map Edge.callee).eraseDups) := by
    rw [List.perm_ext_iff_of_nodup distinct
      (List.nodup_cons.mpr ⟨rootApart, nodup_eraseDups _⟩)]
    intro id
    rw [List.mem_map, List.mem_cons, List.mem_eraseDups, List.mem_map]
    constructor
    · rintro ⟨block, listed, rfl⟩
      rcases List.mem_filter.mp listed with ⟨member, ran⟩
      by_cases root : block.id = .root
      · exact .inl root
      · have found := reflects.numbered.mem_blocks.mp member
        exact .inr ((reflects.count_pos_iff grounded found root).mp (by simpa using ran))
    · rintro (rfl | ⟨call, called, rfl⟩)
      · have root_ran : 0 < profile.root.count := by
          rw [reflects.root_count]
          decide
        exact ⟨profile.root, List.mem_filter.mpr ⟨List.mem_cons_self, by simpa using root_ran⟩,
          reflects.id_eq .root profile.root rfl⟩
      · have notRoot := noneIntoRoot call called
        obtain ⟨block, found⟩ :=
          reflects.get?_of_lt (lt_size_of_mem_calls grounded size called).2
        have named := reflects.id_eq call.callee block found
        have ran := (reflects.count_pos_iff grounded found notRoot).mpr ⟨call, called, rfl⟩
        have member := reflects.numbered.mem_blocks.mpr (named ▸ found)
        exact ⟨block, List.mem_filter.mpr ⟨member, by simpa using ran⟩, named⟩
  have sameLength := same.length_eq
  rwa [List.length_map, List.length_cons] at sameLength

/-- A profile of a graph that a log built conserves the log, unless a call went into the
root. -/
theorem Reflects.conserves
    (reflects : profile.Reflects ((ofSize size).updateAll (log.flatMap requests)))
    (grounded : Grounded log) (along : ∀ activity ∈ log, activity.AlongPath)
    (noneIntoRoot : ∀ call ∈ calls log, call.callee ≠ .root) : profile.Conserves log where
  totalTime_eq := by
    rw [reflects.totalTime_of_log grounded,
      totalTimeOutside_add_totalTimeAmong grounded along noneIntoRoot]
  count_eq := by
    intro id block found notRoot
    exact reflects.count_of_log grounded found notRoot
  entered := by
    intro call called
    exact reflects.get?_of_lt (lt_size_of_mem_calls grounded size called).2
  covered_eq := covered_of_log reflects grounded noneIntoRoot

/-- A profile of a graph that a log built contains every call in its caller. -/
theorem Reflects.containsCalls
    (reflects : profile.Reflects ((ofSize size).updateAll (log.flatMap requests)))
    (grounded : Grounded log) (along : ∀ activity ∈ log, activity.AlongPath) :
    profile.ContainsCalls ((ofSize size).updateAll (log.flatMap requests)) := by
  intro edge call found
  have callerInside := (lt_size_of_call? (wf_updateAll ..) found).1
  rcases reflects.get?_of_lt callerInside with ⟨caller, listed⟩
  have time_eq : call.time = .ofNat (totalTimeOn edge log) := by
    rw [call?_requests grounded] at found
    split at found
    · rw [← Option.some.inj found]
    · cases found
  have inTotal : call.time ≤ profile.totalTime := by
    rw [time_eq, reflects.totalTime_of_log grounded]
    apply Count.ofNat_le_ofNat
    exact Nat.le_add_left_of_le (totalTimeOn_le_leaving along edge)
  refine ⟨caller, listed, ?_, inTotal⟩
  by_cases outer : edge.caller = .root
  · -- The root has no callers: its time is the total.
    rw [outer] at listed
    have root_eq : profile.root = caller := Option.some.inj listed
    rwa [← root_eq]
  · rw [time_eq, reflects.time_of_log grounded listed outer]
    exact Count.ofNat_le_ofNat (totalTimeOn_le_entering along outer)

end Log

end Profile

namespace Session

/-- After a run, a profile can be computed for any registry that the graph covers. -/
theorem compute_performAll (registry blocks : Registry) (size : Nat)
    (steps : List RunStep)
    (covered : blocks.size ≤ ((vacant registry (.ofSize size)).performAll steps).graph.size) :
    ∃ profile, Profile.compute ((vacant registry (.ofSize size)).performAll steps).graph blocks =
        .ok profile ∧
      profile.Reflects ((CallGraph.ofSize size).updateAll
        ((RunHistory.ofSteps steps).log.flatMap requests)) := by
  rw [(follows_performAll registry size steps).graph_eq] at covered ⊢
  exact Profile.reflects_of_wf (CallGraph.wf_updateAll ..) covered

/-- **Time and calls are conserved.**  After any run in which no call went into the root, the
total of the profile is all time that was sampled, and every block counts the calls into
it. -/
theorem performAll_conserves (registry blocks : Registry) (size : Nat) (steps : List RunStep)
    (covered : blocks.size ≤ ((vacant registry (.ofSize size)).performAll steps).graph.size)
    (noneIntoRoot : ∀ call ∈ calls (RunHistory.ofSteps steps).log, call.callee ≠ .root) :
    ∃ profile, Profile.compute ((vacant registry (.ofSize size)).performAll steps).graph blocks =
        .ok profile ∧
      profile.Conserves (RunHistory.ofSteps steps).log := by
  rcases compute_performAll registry blocks size steps covered with
    ⟨profile, computed, reflects⟩
  exact ⟨profile, computed, reflects.conserves (RunHistory.grounded_ofSteps steps).log
    (RunHistory.alongPath_ofSteps steps) noneIntoRoot⟩

theorem size_le_performAll (registry : Registry) (size : Nat) (steps : List RunStep) :
    size ≤ ((vacant registry (.ofSize size)).performAll steps).graph.size := by
  rw [(follows_performAll registry size steps).graph_eq]
  have kept := CallGraph.size_le_updateAll (.ofSize size)
    ((RunHistory.ofSteps steps).log.flatMap requests)
  rw [CallGraph.size_ofSize] at kept
  exact (Nat.le_max_left ..).trans kept

/-- Recursion, a tail call of the outermost call, a thread that is forked in the middle of it
and returns more often than it called, and a tail call that is still pending. -/
def spin : List RunStep :=
  [.start, .operate 0 (.enter ⟨1⟩), .operate 0 (.enter ⟨1⟩), .operate 0 (.sample 3),
    .operate 0 .exit, .operate 0 (.tailCall ⟨2⟩), .fork 0, .operate 1 (.enter ⟨1⟩),
    .operate 1 (.sample 5), .operate 1 .exit, .operate 1 .exit, .operate 1 .exit,
    .operate 1 (.sample 2), .operate 0 .markTail, .operate 0 (.sample 7)]

theorem performAll_conserves_spin :
    ∃ profile, Profile.compute ((vacant .empty (.ofSize 2)).performAll spin).graph
        ⟨[⟨"spin", .unknown⟩]⟩ = .ok profile ∧
      profile.Conserves (RunHistory.ofSteps spin).log :=
  performAll_conserves .empty ⟨[⟨"spin", .unknown⟩]⟩ 2 spin
    (size_le_performAll .empty 2 spin) (by decide)

/-- **Calls are contained in their callers.**  After any run, recursion and calls into the
root included, no call takes longer than the block that made it, nor than the whole run. -/
theorem performAll_containsCalls (registry blocks : Registry) (size : Nat)
    (steps : List RunStep)
    (covered : blocks.size ≤ ((vacant registry (.ofSize size)).performAll steps).graph.size) :
    ∃ profile, Profile.compute ((vacant registry (.ofSize size)).performAll steps).graph blocks =
        .ok profile ∧
      profile.ContainsCalls ((vacant registry (.ofSize size)).performAll steps).graph := by
  rcases compute_performAll registry blocks size steps covered with
    ⟨profile, computed, reflects⟩
  refine ⟨profile, computed, ?_⟩
  rw [(follows_performAll registry size steps).graph_eq]
  exact reflects.containsCalls (RunHistory.grounded_ofSteps steps).log
    (RunHistory.alongPath_ofSteps steps)

/-- A recursion through the root, on two threads, the second of which is in the middle of a
tail call; the samples exceed the limit. -/
def whirl : List RunStep :=
  [.start, .operate 0 (.enter ⟨1⟩), .operate 0 (.enter .root), .operate 0 (.enter ⟨1⟩),
    .fork 0, .operate 1 (.tailCall .root), .operate 0 (.sample (.ofNat Count.limit)),
    .operate 1 (.sample 9)]

theorem performAll_containsCalls_whirl :
    ∃ profile, Profile.compute ((vacant .empty (.ofSize 2)).performAll whirl).graph
        ⟨[⟨"whirl", .unknown⟩]⟩ = .ok profile ∧
      profile.ContainsCalls ((vacant .empty (.ofSize 2)).performAll whirl).graph :=
  performAll_containsCalls .empty ⟨[⟨"whirl", .unknown⟩]⟩ 2 whirl
    (size_le_performAll .empty 2 whirl)

end Session

end CallLedger

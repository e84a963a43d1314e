import CallLedger.Proofs.Thread.History

/-!
# What threads report

Of everything that a thread does, two things concern the graph: calls and samples.  A log
of them determines the requests that the graph receives, and the totals of the requests can
be read off the log: how often an edge was entered, and how much time was sampled while it
was in progress.
-/

namespace CallLedger

open GraphUpdate

/-- What a thread does that concerns the graph. -/
inductive Activity where
  /-- A call was made. -/
  | entered (call : Edge)
  /-- Time was sampled with these calls in progress, as often as they were made. -/
  | sampled (inProgress : List Edge) (time : Count)
  deriving DecidableEq

namespace Activity

/-- The call that was made, if one was. -/
def call? : Activity → Option Edge
  | entered call => some call
  | sampled _ _ => none

/-- Time sampled while an edge was in progress, however often it was. -/
def timeOn (edge : Edge) : Activity → Nat
  | entered _ => 0
  | sampled inProgress time => if edge ∈ inProgress then time.value else 0

/-- Time sampled while no call was in progress. -/
def timeOutside : Activity → Nat
  | sampled [] time => time.value
  | _ => 0

/-- The requests that the graph receives. -/
def requests : Activity → List GraphUpdate
  | entered call => [.record call 1 0]
  | sampled inProgress time =>
      if inProgress = [] then
        [.unattributed time]
      else
        inProgress.eraseDups.map fun edge => .record edge 0 time

/-- The calls of a log, as often as they were made. -/
def calls (log : List Activity) : List Edge :=
  log.filterMap call?

/-- Time sampled in a log while an edge was in progress. -/
def totalTimeOn (edge : Edge) (log : List Activity) : Nat :=
  (log.map (timeOn edge)).sum

/-- Time sampled in a log while no call was in progress. -/
def totalTimeOutside (log : List Activity) : Nat :=
  (log.map timeOutside).sum

/-- The blocks that a block called, as often as it did. -/
def calleesOf (caller : BlockId) (log : List Activity) : List BlockId :=
  ((calls log).filter (·.caller = caller)).map Edge.callee

@[simp] theorem calls_append (first second : List Activity) :
    calls (first ++ second) = calls first ++ calls second := by
  simp [calls]

@[simp] theorem totalTimeOn_append (edge : Edge) (first second : List Activity) :
    totalTimeOn edge (first ++ second) = totalTimeOn edge first + totalTimeOn edge second := by
  simp [totalTimeOn]

@[simp] theorem totalTimeOutside_append (first second : List Activity) :
    totalTimeOutside (first ++ second) = totalTimeOutside first + totalTimeOutside second := by
  simp [totalTimeOutside]

@[simp] theorem calleesOf_append (caller : BlockId) (first second : List Activity) :
    calleesOf caller (first ++ second) = calleesOf caller first ++ calleesOf caller second := by
  simp [calleesOf]

theorem mem_calleesOf {caller callee : BlockId} {log : List Activity} :
    callee ∈ calleesOf caller log ↔ ⟨caller, callee⟩ ∈ calls log := by
  simp only [calleesOf, List.mem_map, List.mem_filter, decide_eq_true_eq]
  constructor
  · rintro ⟨edge, ⟨member, rfl⟩, rfl⟩
    exact member
  · intro member
    exact ⟨_, ⟨member, rfl⟩, rfl⟩

/-- In every sample the calls in progress were made before. -/
inductive Grounded : List Activity → Prop where
  | nil : Grounded []
  | entered {log : List Activity} (earlier : Grounded log) (call : Edge) :
      Grounded (log ++ [.entered call])
  | sampled {log : List Activity} (earlier : Grounded log) {inProgress : List Edge}
      (made : ∀ edge ∈ inProgress, edge ∈ calls log) (time : Count) :
      Grounded (log ++ [.sampled inProgress time])

private theorem totalTime_map_record {edges : List Edge} (distinct : edges.Nodup)
    (edge : Edge) (time : Count) :
    totalTime edge (edges.map fun other => .record other 0 time) =
      if edge ∈ edges then time.value else 0 := by
  induction edges with
  | nil => rfl
  | cons other rest ih =>
      rcases List.nodup_cons.mp distinct with ⟨fresh, restDistinct⟩
      have first : totalTime edge [.record other 0 time] =
          if other = edge then time.value else 0 := by
        simp [totalTime, GraphUpdate.timeOn]
      rw [List.map_cons, ← List.singleton_append, totalTime_append, first, ih restDistinct]
      by_cases equal : other = edge
      · subst equal
        simp [fresh]
      · simp [equal, Ne.symm equal]

private theorem totalCalls_map_record (edges : List Edge) (edge : Edge) (time : Count) :
    totalCalls edge (edges.map fun other => .record other 0 time) = 0 := by
  simp [totalCalls, callsOn, Function.comp_def]

theorem totalCalls_requests_single (edge : Edge) (activity : Activity) :
    totalCalls edge activity.requests = (calls [activity]).count edge := by
  cases activity with
  | entered call =>
      by_cases equal : call = edge
      · simp [requests, totalCalls, callsOn, calls, call?, equal]
      · simp [requests, totalCalls, callsOn, calls, call?, equal]
  | sampled inProgress time =>
      rw [requests]
      split
      · rfl
      · exact totalCalls_map_record _ edge time

theorem totalTime_requests_single (edge : Edge) (activity : Activity) :
    totalTime edge activity.requests = activity.timeOn edge := by
  cases activity with
  | entered call =>
      simp [requests, totalTime, GraphUpdate.timeOn, timeOn]
  | sampled inProgress time =>
      rw [requests]
      split
      next none => simp [totalTime, GraphUpdate.timeOn, timeOn, none]
      next =>
        rw [totalTime_map_record (nodup_eraseDups inProgress), timeOn]
        simp only [List.mem_eraseDups]

theorem totalOutside_requests_single (activity : Activity) :
    totalOutside activity.requests = activity.timeOutside := by
  cases activity with
  | entered call => rfl
  | sampled inProgress time =>
      cases inProgress with
      | nil => simp [requests, totalOutside, GraphUpdate.timeOutside, timeOutside]
      | cons edge rest =>
          simp [requests, totalOutside, GraphUpdate.timeOutside, timeOutside, Function.comp_def]

theorem totalCalls_requests (edge : Edge) (log : List Activity) :
    totalCalls edge (log.flatMap requests) = (calls log).count edge := by
  induction log with
  | nil => rfl
  | cons activity rest ih =>
      rw [List.flatMap_cons, totalCalls_append, ih, totalCalls_requests_single,
        ← List.count_append, ← calls_append, List.singleton_append]

theorem totalTime_requests (edge : Edge) (log : List Activity) :
    totalTime edge (log.flatMap requests) = totalTimeOn edge log := by
  induction log with
  | nil => rfl
  | cons activity rest ih =>
      rw [List.flatMap_cons, totalTime_append, ih, totalTime_requests_single, totalTimeOn,
        totalTimeOn, List.map_cons, List.sum_cons]

theorem totalOutside_requests (log : List Activity) :
    totalOutside (log.flatMap requests) = totalTimeOutside log := by
  induction log with
  | nil => rfl
  | cons activity rest ih =>
      rw [List.flatMap_cons, totalOutside_append, ih, totalOutside_requests_single,
        totalTimeOutside, totalTimeOutside, List.map_cons, List.sum_cons]

private theorem edges_requests_sampled {inProgress : List Edge} {time : Count} {edge : Edge}
    (member : edge ∈ edges (requests (.sampled inProgress time))) : edge ∈ inProgress := by
  rw [requests] at member
  split at member
  · simp [edges, edge?] at member
  · simpa [edges, edge?, List.filterMap_map, Function.comp_def] using member

/-- Destinations are seen by the graph in the order in which they were first called: a
sample adds to edges that are there already. -/
theorem destinations_requests {log : List Activity} (grounded : Grounded log)
    (caller : BlockId) :
    (destinations caller (log.flatMap requests)).eraseDups =
      (calleesOf caller log).eraseDups := by
  induction grounded with
  | nil => rfl
  | @entered log _ call ih =>
      have added : destinations caller (requests (.entered call)) =
          calleesOf caller [.entered call] := by
        simp [destinations, edges, edge?, requests, calleesOf, calls, call?]
      rw [List.flatMap_append, destinations_append, List.flatMap_singleton, added,
        eraseDups_append_congr ih, calleesOf_append]
  | @sampled log _ inProgress made time ih =>
      -- Every edge that a sample adds to was entered before, so no row grows.
      have known : ∀ callee ∈ destinations caller (requests (.sampled inProgress time)),
          callee ∈ destinations caller (log.flatMap requests) := by
        intro callee member
        have running := edges_requests_sampled (mem_destinations.mp member)
        have called := List.mem_eraseDups.mpr (mem_calleesOf.mpr (made _ running))
        rw [← ih] at called
        exact List.mem_eraseDups.mp called
      have nothing : calleesOf caller [.sampled inProgress time] = [] := rfl
      rw [List.flatMap_append, destinations_append, List.flatMap_singleton,
        eraseDups_append_of_subset known, ih, calleesOf_append, nothing, List.append_nil]

theorem tally_requests (log : List Activity) (edge : Edge) :
    tally (log.flatMap requests) edge =
      ⟨edge.callee, .ofNat ((calls log).count edge), .ofNat (totalTimeOn edge log)⟩ := by
  rw [tally, totalCalls_requests, totalTime_requests]

theorem mem_edges_requests {log : List Activity} (grounded : Grounded log) {edge : Edge} :
    edge ∈ edges (log.flatMap requests) ↔ edge ∈ calls log := by
  rw [← mem_destinations, ← List.mem_eraseDups, destinations_requests grounded,
    List.mem_eraseDups, mem_calleesOf]

/-- A row shows what its block called: every callee once, in the order of first calls. -/
theorem row_requests {log : List Activity} (grounded : Grounded log) (size : Nat)
    (caller : BlockId) :
    ((CallGraph.ofSize size).updateAll (log.flatMap requests)).row caller =
      (calleesOf caller log).eraseDups.map fun callee =>
        ⟨callee, .ofNat ((calls log).count ⟨caller, callee⟩),
          .ofNat (totalTimeOn ⟨caller, callee⟩ log)⟩ := by
  rw [CallGraph.row_updateAll, destinations_requests grounded]
  apply List.map_congr_left
  intro callee _
  exact tally_requests log ⟨caller, callee⟩

/-- An edge has a record exactly if it was called. -/
theorem call?_requests {log : List Activity} (grounded : Grounded log) (size : Nat)
    (edge : Edge) :
    ((CallGraph.ofSize size).updateAll (log.flatMap requests)).call? edge =
      if edge ∈ calls log then
        some ⟨edge.callee, .ofNat ((calls log).count edge), .ofNat (totalTimeOn edge log)⟩
      else none := by
  rw [CallGraph.call?_updateAll, tally_requests]
  simp only [mem_edges_requests grounded]

private theorem record_or_unattributed {activity : Activity} {request : GraphUpdate}
    (member : request ∈ activity.requests) :
    (∃ edge count time, request = .record edge count time) ∨
      ∃ time, request = .unattributed time := by
  cases activity with
  | entered call => exact .inl ⟨call, 1, 0, List.mem_singleton.mp member⟩
  | sampled inProgress time =>
      rw [requests] at member
      split at member
      · exact .inr ⟨time, List.mem_singleton.mp member⟩
      · rcases List.mem_map.mp member with ⟨edge, _, rfl⟩
        exact .inl ⟨edge, 0, time, rfl⟩

/-- A thread asks for rows for nothing but the ends of calls that were made. -/
theorem size_requests_le {log : List Activity} (grounded : Grounded log) {size bound : Nat}
    (initial : max size 1 ≤ bound)
    (inside : ∀ edge ∈ calls log, edge.caller.index < bound ∧ edge.callee.index < bound) :
    ((CallGraph.ofSize size).updateAll (log.flatMap requests)).size ≤ bound := by
  apply CallGraph.size_updateAll_le
  · rwa [CallGraph.size_ofSize]
  · intro request requested
    rcases List.mem_flatMap.mp requested with ⟨activity, _, member⟩
    rcases record_or_unattributed member with ⟨edge, count, time, rfl⟩ | ⟨time, rfl⟩
    · have recorded : edge ∈ edges (log.flatMap requests) :=
        List.mem_filterMap.mpr ⟨_, requested, rfl⟩
      obtain ⟨callerInside, calleeInside⟩ :=
        inside edge ((mem_edges_requests grounded).mp recorded)
      exact Nat.max_lt.mpr ⟨callerInside, calleeInside⟩
    · exact Nat.zero_le _

end Activity

namespace ThreadHistory

/-- What an operation reports.  A refused operation reports nothing. -/
def activity (history : ThreadHistory) : Operation → List Activity
  | .enter callee => [.entered ⟨history.current, callee⟩]
  | .tailCall callee =>
      if history.below = [] then [] else [.entered ⟨history.current, callee⟩]
  | .sample time => [.sampled history.inProgress time]
  | .markTail | .exit => []

/-- A call is in progress after an operation only if it was before or was just made. -/
theorem mem_inProgress_after {history : ThreadHistory} {operation : Operation} {edge : Edge}
    (running : edge ∈ (history.after operation).inProgress) :
    edge ∈ history.inProgress ∨ edge ∈ Activity.calls (history.activity operation) := by
  have entered : ∀ callee, Activity.calls [.entered ⟨history.current, callee⟩] =
      [⟨history.current, callee⟩] := fun _ => rfl
  cases operation with
  | enter callee =>
      rw [after, inProgress_enter] at running
      rw [activity, entered]
      exact List.mem_append.mp running
  | markTail =>
      rw [after] at running
      split at running
      · exact .inl running
      · exact .inl running
  | tailCall callee =>
      rw [after] at running
      rw [activity]
      split at running
      next => exact .inl running
      next inside =>
        rw [inProgress_enter] at running
        rw [if_neg inside, entered]
        exact List.mem_append.mp running
  | exit => exact .inl (mem_inProgress_of_exit running)
  | sample time => exact .inl running

end ThreadHistory

/-- A thread requests of the graph what its history reports. -/
theorem Thread.Follows.requests_eq {thread : Thread} {history : ThreadHistory}
    (follows : thread.Follows history) (operation : Operation) :
    thread.requests operation = (history.activity operation).flatMap Activity.requests := by
  cases operation with
  | enter callee =>
      rw [Thread.requests, edgeTo, follows.current_eq]
      rfl
  | tailCall callee =>
      rw [Thread.requests, ThreadHistory.activity, edgeTo, follows.current_eq]
      simp only [follows.below_eq_nil]
      split <;> rfl
  | sample time =>
      rw [Thread.requests, ThreadHistory.activity, follows.active_eq]
      simp only [eraseDups_eq_nil, List.flatMap_cons, List.flatMap_nil, List.append_nil]
      rfl
  | markTail | exit => rfl

end CallLedger

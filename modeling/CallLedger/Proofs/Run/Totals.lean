import Mathlib.Algebra.Order.BigOperators.Group.List
import Mathlib.Algebra.Order.Group.Nat
import CallLedger.Proofs.Graph.Aggregation
import CallLedger.Proofs.Thread.Path

/-!
# Totals of a log in a profile

A profile adds up records that were clamped already.  Clamping in between does not change
the clamp of a total, so a profile shows the clamped totals of the log from which its graph
was built: how many calls were made into a block, and the time of every sample, as often as
it found calls into the block in progress.
-/

namespace CallLedger

namespace Count

theorem ofNat_le_ofNat {less more : Nat} (le : less ≤ more) : ofNat less ≤ ofNat more := by
  rw [le_iff, value_ofNat, value_ofNat]
  omega

/-- Parts may be clamped before they are added up. -/
theorem ofNat_sum_value {α : Type} (parts : List α) (amount : α → Nat) (more : Nat) :
    ofNat (more + (parts.map fun part => (ofNat (amount part)).value).sum) =
      ofNat (more + (parts.map amount).sum) := by
  induction parts generalizing more with
  | nil => rfl
  | cons part rest ih =>
      have later := congrArg value (ih (more + amount part))
      ext
      simp only [List.map_cons, List.sum_cons, value_ofNat] at later ⊢
      omega

/-- Parts that stay in range together are not clamped one by one. -/
theorem sum_value_ofNat {α : Type} {parts : List α} {amount : α → Nat}
    (inRange : (parts.map amount).sum ≤ limit) :
    (parts.map fun part => (ofNat (amount part)).value).sum = (parts.map amount).sum := by
  induction parts with
  | nil => rfl
  | cons part rest ih =>
      rw [List.map_cons, List.sum_cons] at inRange
      have first : (ofNat (amount part)).value = amount part := by
        rw [value_ofNat]
        omega
      rw [List.map_cons, List.sum_cons, List.map_cons, List.sum_cons, first, ih (by omega)]

end Count

/-- Whether an edge leads from a block to another one. -/
def Edge.leadsAway (block : BlockId) (edge : Edge) : Bool :=
  edge.caller = block && edge.callee != block

namespace Activity

/-- Time that a test on edges selects: every sample counts as often as it finds one of the
selected edges in progress, and recursion does not make it count again. -/
def timeAmong (selects : Edge → Bool) : Activity → Nat
  | entered _ => 0
  | sampled inProgress time => (inProgress.filter selects).eraseDups.length * time.value

/-- Time that a test on edges selects in a log. -/
def totalTimeAmong (selects : Edge → Bool) (log : List Activity) : Nat :=
  (log.map (timeAmong selects)).sum

@[simp] theorem totalTimeAmong_append (selects : Edge → Bool) (first second : List Activity) :
    totalTimeAmong selects (first ++ second) =
      totalTimeAmong selects first + totalTimeAmong selects second := by
  simp [totalTimeAmong]

theorem sum_map_ite {α : Type} (values : List α) (selects : α → Bool) (amount : Nat) :
    (values.map fun value => if selects value then amount else 0).sum =
      (values.filter selects).length * amount := by
  induction values with
  | nil => simp
  | cons value rest ih =>
      cases selected : selects value with
      | false => simp [selected, ih]
      | true => simp [selected, ih, Nat.succ_mul, Nat.add_comm]

/-- A list of calls is counted out by the distinct edges among them. -/
theorem sum_count {edges made : List Edge} (distinct : edges.Nodup) {selects : Edge → Bool}
    (listed : ∀ edge ∈ made, edge ∈ edges ↔ selects edge = true) :
    (edges.map made.count).sum = made.countP selects := by
  induction made with
  | nil => simp
  | cons call rest ih =>
      have restListed := ih fun edge member => listed edge (List.mem_cons_of_mem _ member)
      have first : (edges.map fun edge => if edge == call then 1 else 0).sum =
          if selects call then 1 else 0 := by
        rw [sum_map_ite, ← List.countP_eq_length_filter, Nat.mul_one]
        change edges.count call = _
        rw [distinct.count]
        simp only [listed call List.mem_cons_self]
      have split : edges.map (call :: rest).count =
          edges.map fun edge => rest.count edge + if edge == call then 1 else 0 := by
        apply List.map_congr_left
        intro edge _
        rw [List.count_cons, BEq.comm]
      rw [split, List.sum_map_add, restListed, first, List.countP_cons]

private theorem sum_timeOn {edges inProgress : List Edge} (distinct : edges.Nodup)
    {selects : Edge → Bool}
    (listed : ∀ edge ∈ inProgress, edge ∈ edges ↔ selects edge = true) (time : Count) :
    (edges.map fun edge => timeOn edge (.sampled inProgress time)).sum =
      timeAmong selects (.sampled inProgress time) := by
  have running := sum_map_ite edges (fun edge => decide (edge ∈ inProgress)) time.value
  simp only [decide_eq_true_eq] at running
  -- Both sides list the selected edges in progress, each once.
  have same : (edges.filter fun edge => decide (edge ∈ inProgress)).Perm
      (inProgress.filter selects).eraseDups := by
    rw [List.perm_ext_iff_of_nodup (distinct.filter _) (nodup_eraseDups _)]
    intro edge
    simp only [List.mem_filter, decide_eq_true_eq, List.mem_eraseDups]
    constructor
    · rintro ⟨member, progress⟩
      exact ⟨progress, (listed edge progress).mp member⟩
    · rintro ⟨progress, selected⟩
      exact ⟨(listed edge progress).mpr selected, progress⟩
  simp only [timeOn, timeAmong]
  rw [running, same.length_eq]

/-- The times of distinct edges add up to the time that they select together. -/
theorem sum_totalTimeOn {edges : List Edge} (distinct : edges.Nodup) {log : List Activity}
    (grounded : Grounded log) {selects : Edge → Bool}
    (listed : ∀ edge ∈ calls log, edge ∈ edges ↔ selects edge = true) :
    (edges.map fun edge => totalTimeOn edge log).sum = totalTimeAmong selects log := by
  induction grounded with
  | nil => simp [totalTimeOn, totalTimeAmong]
  | @entered log _ call ih =>
      have earlier := ih fun edge member =>
        listed edge (calls_append .. ▸ List.mem_append_left _ member)
      simp only [totalTimeOn_append, totalTimeAmong_append, List.sum_map_add, earlier]
      simp [totalTimeOn, timeOn, totalTimeAmong, timeAmong]
  | @sampled log _ inProgress made time ih =>
      have earlierListed : ∀ edge ∈ calls log, edge ∈ edges ↔ selects edge = true :=
        fun edge member => listed edge (calls_append .. ▸ List.mem_append_left _ member)
      have added := sum_timeOn distinct
        (fun edge running => earlierListed edge (made edge running)) time
      simp only [totalTimeOn_append, totalTimeAmong_append, List.sum_map_add,
        ih earlierListed]
      simpa [totalTimeOn, totalTimeAmong] using added

theorem totalTimeOn_of_not_mem {log : List Activity} (grounded : Grounded log) {edge : Edge}
    (uncalled : edge ∉ calls log) : totalTimeOn edge log = 0 := by
  rw [← mem_edges_requests grounded] at uncalled
  rw [← totalTime_requests]
  exact (GraphUpdate.totals_of_not_mem uncalled).2

/-- The distinct edges by which a block called others, in the order of first calls. -/
def leaving (caller : BlockId) (log : List Activity) : List Edge :=
  (calleesOf caller log).eraseDups.map (Edge.mk caller)

theorem nodup_leaving (caller : BlockId) (log : List Activity) : (leaving caller log).Nodup := by
  apply (nodup_eraseDups _).map
  intro left right same
  cases same
  rfl

theorem mem_leaving {caller : BlockId} {log : List Activity} {edge : Edge}
    (called : edge ∈ calls log) : edge ∈ leaving caller log ↔ edge.caller = caller := by
  rw [leaving, List.mem_map]
  constructor
  · rintro ⟨callee, _, rfl⟩
    rfl
  · intro leaves
    rcases edge with ⟨source, callee⟩
    cases leaves
    exact ⟨callee, List.mem_eraseDups.mpr (mem_calleesOf.mpr called), rfl⟩

/-- The row of a block has a record of every edge by which it called another. -/
theorem row_leaving {log : List Activity} (grounded : Grounded log) (size : Nat)
    (caller : BlockId) :
    ((CallGraph.ofSize size).updateAll (log.flatMap requests)).row caller =
      (leaving caller log).map fun edge =>
        ⟨edge.callee, .ofNat ((calls log).count edge), .ofNat (totalTimeOn edge log)⟩ := by
  rw [row_requests grounded, leaving, List.map_map]
  rfl

/-- The graph has rows for both ends of every call. -/
theorem lt_size_of_mem_calls {log : List Activity} (grounded : Grounded log) (size : Nat)
    {edge : Edge} (called : edge ∈ calls log) :
    edge.caller.index < ((CallGraph.ofSize size).updateAll (log.flatMap requests)).size ∧
      edge.callee.index < ((CallGraph.ofSize size).updateAll (log.flatMap requests)).size :=
  CallGraph.edge_lt_size ((mem_edges_requests grounded).mpr called)

/-- An edge is never in progress for longer than the edges that every sample of it finds
in progress beside it. -/
theorem totalTimeOn_le_totalTimeAmong {log : List Activity} {edge : Edge}
    {selects : Edge → Bool}
    (accompanied : ∀ inProgress time, .sampled inProgress time ∈ log → edge ∈ inProgress →
      ∃ other ∈ inProgress, selects other = true) :
    totalTimeOn edge log ≤ totalTimeAmong selects log := by
  apply List.sum_le_sum
  intro activity member
  cases activity with
  | entered call => exact Nat.le_refl _
  | sampled inProgress time =>
      rw [timeOn, timeAmong]
      split
      next running =>
        rcases accompanied inProgress time member running with ⟨other, otherRunning, selected⟩
        have found : other ∈ (inProgress.filter selects).eraseDups :=
          List.mem_eraseDups.mpr (List.mem_filter.mpr ⟨otherRunning, selected⟩)
        exact Nat.le_mul_of_pos_left _ (List.length_pos_of_mem found)
      next => exact Nat.zero_le _

end Activity

namespace CallGraph

variable {graph : CallGraph}

/-- All edges into a block that a graph can have. -/
def edgesInto (graph : CallGraph) (callee : BlockId) : List Edge :=
  (List.range graph.size).map fun index => ⟨⟨index⟩, callee⟩

theorem nodup_edgesInto (graph : CallGraph) (callee : BlockId) :
    (graph.edgesInto callee).Nodup := by
  apply List.nodup_range.map
  intro left right same
  cases same
  rfl

theorem mem_edgesInto {edge : Edge} (inside : edge.caller.index < graph.size)
    (callee : BlockId) : edge ∈ graph.edgesInto callee ↔ edge.callee = callee := by
  simp only [edgesInto, List.mem_map, List.mem_range]
  constructor
  · rintro ⟨index, _, rfl⟩
    rfl
  · rintro rfl
    exact ⟨edge.caller.index, inside, rfl⟩

/-- Callers add up to the clamped total over all edges into a block, if that is what the
records of the edges are. -/
theorem ofNat_sum_callersOf (wf : graph.WF) (callee : BlockId) {amount : Call → Nat}
    {total : Edge → Nat}
    (recorded : ∀ edge, (graph.call? edge).elim 0 amount = (Count.ofNat (total edge)).value) :
    Count.ofNat ((graph.callersOf callee).map fun entry => amount entry.2).sum =
      .ofNat ((graph.edgesInto callee).map total).sum := by
  have caller_by_caller : ((graph.callersOf callee).map fun entry => amount entry.2).sum =
      ((graph.edgesInto callee).map fun edge => (graph.call? edge).elim 0 amount).sum := by
    rw [callersOf_eq wf, edgesInto, List.map_map]
    induction List.range graph.size with
    | nil => rfl
    | cons index rest ih =>
        rw [List.filterMap_cons, List.map_cons, List.sum_cons, ← ih, Function.comp_apply]
        cases graph.call? ⟨⟨index⟩, callee⟩ with
        | none => exact (Nat.zero_add _).symm
        | some call => rfl
  have clamped := Count.ofNat_sum_value (graph.edgesInto callee) total 0
  rw [Nat.zero_add, Nat.zero_add] at clamped
  rw [caller_by_caller, ← clamped]
  simp only [recorded]

end CallGraph

namespace Profile.Reflects

open Activity CallGraph

variable {profile : Profile} {log : List Activity} {size : Nat} {id : BlockId}
  {block : BlockProfile}

private theorem listed_edgesInto (grounded : Grounded log) (callee : BlockId) :
    ∀ edge ∈ calls log,
      edge ∈ ((ofSize size).updateAll (log.flatMap requests)).edgesInto callee ↔
        decide (edge.callee = callee) = true := by
  intro edge called
  rw [mem_edgesInto (lt_size_of_mem_calls grounded size called).1, decide_eq_true_eq]

/-- A block counts the calls that were made into it. -/
theorem count_of_log
    (reflects : profile.Reflects ((ofSize size).updateAll (log.flatMap requests)))
    (grounded : Grounded log) (found : profile.get? id = some block) (notRoot : id ≠ .root) :
    block.count = .ofNat ((calls log).countP (·.callee = id)) := by
  have recorded : ∀ edge, (((ofSize size).updateAll (log.flatMap requests)).call? edge).elim 0
      (·.count.value) = (Count.ofNat ((calls log).count edge)).value := by
    intro edge
    rw [call?_requests grounded]
    split
    next => rfl
    next uncalled =>
      rw [List.count_eq_zero.mpr uncalled]
      rfl
  rw [reflects.count_eq id block found notRoot, reflects.callers_eq id block found notRoot,
    List.map_map, ← sum_count (nodup_edgesInto _ id) (listed_edgesInto grounded id)]
  exact ofNat_sum_callersOf (wf_updateAll ..) id recorded

/-- A block has the time of the samples that found calls into it in progress. -/
theorem time_of_log
    (reflects : profile.Reflects ((ofSize size).updateAll (log.flatMap requests)))
    (grounded : Grounded log) (found : profile.get? id = some block) (notRoot : id ≠ .root) :
    block.time = .ofNat (totalTimeAmong (·.callee = id) log) := by
  have recorded : ∀ edge, (((ofSize size).updateAll (log.flatMap requests)).call? edge).elim 0
      (·.time.value) = (Count.ofNat (totalTimeOn edge log)).value := by
    intro edge
    rw [call?_requests grounded]
    split
    next => rfl
    next uncalled =>
      rw [totalTimeOn_of_not_mem grounded uncalled]
      rfl
  rw [reflects.time_eq id block found notRoot, reflects.callers_eq id block found notRoot,
    List.map_map, ← sum_totalTimeOn (nodup_edgesInto _ id) grounded
      (listed_edgesInto grounded id)]
  exact ofNat_sum_callersOf (wf_updateAll ..) id recorded

/-- The total is the time of the samples that found calls from the root in progress, and
of those that found none. -/
theorem totalTime_of_log
    (reflects : profile.Reflects ((ofSize size).updateAll (log.flatMap requests)))
    (grounded : Grounded log) :
    profile.totalTime =
      .ofNat (totalTimeOutside log + totalTimeAmong (·.caller = .root) log) := by
  have unattributed_eq : ((ofSize size).updateAll (log.flatMap requests)).unattributed =
      .ofNat (totalTimeOutside log) := by
    rw [unattributed_updateAll, totalOutside_requests]
  have listed : ∀ edge ∈ calls log,
      edge ∈ leaving .root log ↔ decide (edge.caller = .root) = true := by
    intro edge called
    rw [mem_leaving called, decide_eq_true_eq]
  rw [totalTime, reflects.root_time, row_leaving grounded, List.map_map, unattributed_eq,
    ← sum_totalTimeOn (nodup_leaving .root log) grounded listed]
  calc
    _ = Count.ofNat ((Count.ofNat (totalTimeOutside log)).value +
          ((leaving .root log).map fun edge => totalTimeOn edge log).sum) :=
      Count.ofNat_sum_value ..
    _ = _ := by
      rw [Count.ofNat_add, Count.ofNat_value, ← Count.ofNat_add]

/-- The calls from a block to others have the time of the samples that found them in
progress. -/
theorem callees_of_log
    (reflects : profile.Reflects ((ofSize size).updateAll (log.flatMap requests)))
    (grounded : Grounded log) (found : profile.get? id = some block) :
    ∃ away : List Edge, (away.map fun edge => totalTimeOn edge log).sum =
        totalTimeAmong (Edge.leadsAway id) log ∧
      (block.callees.filter (·.id != id)).map (·.time.value) =
        away.map fun edge => (Count.ofNat (totalTimeOn edge log)).value := by
  refine ⟨(leaving id log).filter (·.callee != id), ?_, ?_⟩
  · apply sum_totalTimeOn ((nodup_leaving id log).filter _) grounded
    intro edge called
    simp [mem_leaving called, Edge.leadsAway]
  · rw [reflects.callees_eq id block found, row_leaving grounded, List.filter_map, List.map_map]
    rfl

/-- A block has to itself what is left of its time. -/
theorem selfTime_of_log
    (reflects : profile.Reflects ((ofSize size).updateAll (log.flatMap requests)))
    (grounded : Grounded log) (found : profile.get? id = some block) :
    block.selfTime = block.time - .ofNat (totalTimeAmong (Edge.leadsAway id) log) := by
  obtain ⟨away, total, times⟩ := reflects.callees_of_log grounded found
  have clamped := Count.ofNat_sum_value away (totalTimeOn · log) 0
  rw [Nat.zero_add, Nat.zero_add] at clamped
  rw [BlockProfile.selfTime, reflects.id_eq id block found, Count.sum_eq, List.map_map,
    ← total, ← clamped, ← times]
  rfl

end Profile.Reflects

end CallLedger

import Mathlib.Data.List.Perm.Subperm
import Mathlib.Order.Bounds.Basic
import CallLedger.Proofs.Graph.Reordering

/-!
# A call graph as a map

A call graph may be asked for one edge, for a row, for all edges, for the callers of a block or
for the number of edges.  The answers describe one map: an edge is in it if it was ever recorded,
and its value is the clamp of what was recorded for it.  Only the order in which a row lists its
destinations depends on the order of the requests.
-/

namespace CallLedger

namespace GraphUpdate

/-- The blocks that a request is about: it makes sure that they have rows. -/
def Mentions : GraphUpdate → BlockId → Prop
  | record edge _ _, id => id = edge.caller ∨ id = edge.callee
  | unattributed _, _ => False
  | ensureRow other, id => id = other
  | track registry, id => id.index < registry.size

theorem lt_neededRows {request : GraphUpdate} {id : BlockId} (mentions : request.Mentions id) :
    id.index + 1 ≤ request.neededRows := by
  cases request with
  | record edge count time =>
      rcases mentions with rfl | rfl
      · exact Nat.succ_le_succ (Nat.le_max_left ..)
      · exact Nat.succ_le_succ (Nat.le_max_right ..)
  | unattributed time => exact mentions.elim
  | ensureRow other =>
      cases mentions
      exact Nat.le_refl _
  | track registry => exact mentions

/-- A request asks for no more rows than for one of the blocks that it is about. -/
theorem exists_mentions {request : GraphUpdate} (needed : request.neededRows ≠ 0) :
    ∃ id, request.Mentions id ∧ request.neededRows = id.index + 1 := by
  cases request with
  | record edge count time =>
      rcases Nat.le_total edge.caller.index edge.callee.index with up | down
      · exact ⟨edge.callee, .inr rfl, congrArg (· + 1) (Nat.max_eq_right up)⟩
      · exact ⟨edge.caller, .inl rfl, congrArg (· + 1) (Nat.max_eq_left down)⟩
  | unattributed time => exact absurd rfl needed
  | ensureRow id => exact ⟨id, rfl, rfl⟩
  | track registry =>
      exact ⟨registry.lastId, Nat.lt_succ_self _, rfl⟩

end GraphUpdate

namespace Row

/-- What is recorded for one destination is found as the record of another one. -/
theorem find?_record_of_ne {callee other : BlockId} (different : other ≠ callee)
    (count time : Count) (row : Row) :
    (record callee count time row).find? (·.id == other) = row.find? (·.id == other) := by
  induction row with
  | nil => simp [record, Ne.symm different]
  | cons call rest ih =>
      by_cases named : call.id = callee
      · have skipped : (call.id == other) = false :=
          beq_false_of_ne fun equal => different (equal.symm.trans named)
        simp [record, named, Ne.symm different]
      · simp only [record, named, if_false, List.find?_cons, ih]

/-- The record of a destination adds to the earlier one, if there was one. -/
theorem find?_record_self (callee : BlockId) (count time : Count) (row : Row) :
    (record callee count time row).find? (·.id == callee) =
      some ((row.find? (·.id == callee)).elim ⟨callee, count, time⟩ fun call =>
        { call with count := call.count + count, time := call.time + time }) := by
  induction row with
  | nil => simp [record]
  | cons call rest ih =>
      by_cases named : call.id = callee
      · simp [record, named]
      · simp [record, named, ih]

end Row

namespace CallGraph

open GraphUpdate

/-- A record changes the value of its edge alone. -/
theorem call?_record (graph : CallGraph) (edge other : Edge) (count time : Count) :
    (graph.record edge count time).call? other =
      if other = edge then
        some ((graph.call? edge).elim ⟨edge.callee, count, time⟩ fun call =>
          { call with count := call.count + count, time := call.time + time })
      else graph.call? other := by
  rw [call?, row_record]
  by_cases sameRow : other.caller = edge.caller
  · rw [if_pos sameRow]
    by_cases sameEnd : other.callee = edge.callee
    · have same : other = edge := by
        cases other
        cases edge
        exact congrArg₂ Edge.mk sameRow sameEnd
      subst same
      rw [if_pos rfl]
      exact Row.find?_record_self ..
    · have different : other ≠ edge := fun same => sameEnd (congrArg Edge.callee same)
      rw [if_neg different]
      exact Row.find?_record_of_ne sameEnd ..
  · have different : other ≠ edge := fun same => sameRow (congrArg Edge.caller same)
    rw [if_neg sameRow, if_neg different]
    rfl

/-- The edges that a graph has records of, by calling block and then in row order. -/
def recorded (graph : CallGraph) : List Edge :=
  graph.calls.map fun entry => ⟨entry.1, entry.2.id⟩

@[simp] theorem length_recorded (graph : CallGraph) :
    graph.recorded.length = graph.edgeCount :=
  List.length_map ..

theorem row_of_size_le {graph : CallGraph} {caller : BlockId}
    (outside : graph.size ≤ caller.index) : graph.row caller = [] := by
  rw [row, Array.getElem?_eq_none outside, Option.getD_none]

theorem mem_calls {graph : CallGraph} {caller : BlockId} {call : Call} :
    (caller, call) ∈ graph.calls ↔ call ∈ graph.row caller := by
  rw [calls_eq, List.mem_flatMap]
  constructor
  · rintro ⟨index, _, listed⟩
    rcases List.mem_map.mp listed with ⟨other, inRow, equal⟩
    cases equal
    exact inRow
  · intro inRow
    refine ⟨caller.index, ?_, List.mem_map_of_mem inRow⟩
    apply List.mem_range.mpr
    apply Nat.lt_of_not_le
    intro outside
    rw [row_of_size_le outside] at inRow
    cases inRow

theorem mem_recorded_of_call? {graph : CallGraph} {edge : Edge} {call : Call}
    (found : graph.call? edge = some call) : edge ∈ graph.recorded := by
  have named : call.id = edge.callee := by simpa using List.find?_some found
  have listed := mem_calls.mpr (List.mem_of_find?_eq_some found)
  have recorded := List.mem_map_of_mem (f := fun entry => Edge.mk entry.1 entry.2.id) listed
  rwa [named] at recorded

/-- A graph has no fewer edges than can be found in it. -/
theorem length_le_edgeCount {graph : CallGraph} {edges : List Edge} (distinct : edges.Nodup)
    (found : ∀ edge ∈ edges, ∃ call, graph.call? edge = some call) :
    edges.length ≤ graph.edgeCount := by
  rw [← length_recorded]
  apply (distinct.subperm _).length_le
  intro edge member
  rcases found edge member with ⟨call, isCall⟩
  exact mem_recorded_of_call? isCall

section WellFormed

variable {graph : CallGraph} (wf : graph.WF)

include wf

theorem mem_row_iff {caller : BlockId} {call : Call} :
    call ∈ graph.row caller ↔ graph.call? ⟨caller, call.id⟩ = some call := by
  rw [← mem_callersOf wf, callersOf, List.mem_filter, mem_calls]
  simp

theorem mem_recorded_iff {edge : Edge} :
    edge ∈ graph.recorded ↔ ∃ call, graph.call? edge = some call := by
  constructor
  · intro member
    rcases List.mem_map.mp member with ⟨⟨caller, call⟩, listed, rfl⟩
    exact ⟨call, (mem_row_iff wf).mp (mem_calls.mp listed)⟩
  · rintro ⟨call, found⟩
    exact mem_recorded_of_call? found

/-- Every edge is listed once: within a row the destinations differ, and different rows have
different calling blocks. -/
theorem nodup_recorded : graph.recorded.Nodup := by
  rw [recorded, calls_eq, List.map_flatMap, List.nodup_flatMap]
  constructor
  · intro index _
    have distinct := (wf.distinct ⟨index⟩).map (f := fun callee => Edge.mk ⟨index⟩ callee)
      fun left right same => congrArg Edge.callee same
    rwa [List.map_map] at distinct ⊢
  · apply List.nodup_range.imp
    intro left right different edge leftListed rightListed
    simp only [List.map_map, List.mem_map, Function.comp_apply] at leftListed rightListed
    rcases leftListed with ⟨_, _, rfl⟩
    rcases rightListed with ⟨_, _, same⟩
    exact different (congrArg (·.caller.index) same).symm

end WellFormed

/-- Rows are there from the start or because a request asked for them. -/
theorem size_updateAll_cases (graph : CallGraph) (updates : List GraphUpdate) :
    (graph.updateAll updates).size = graph.size ∨
      ∃ request ∈ updates, (graph.updateAll updates).size = request.neededRows := by
  induction updates generalizing graph with
  | nil => exact .inl rfl
  | cons request rest ih =>
      rcases ih (graph.update request) with kept | ⟨other, member, grown⟩
      · rw [size_update] at kept
        rcases Nat.le_total request.neededRows graph.size with enough | more
        · exact .inl (kept.trans (Nat.max_eq_left enough))
        · exact .inr ⟨request, List.mem_cons_self, kept.trans (Nat.max_eq_right more)⟩
      · exact .inr ⟨other, List.mem_cons_of_mem _ member, grown⟩

/-- The number of rows is the greatest of the numbers that were asked for. -/
theorem isGreatest_size (size : Nat) (updates : List GraphUpdate) :
    IsGreatest
      ({1, size} ∪ {rows | ∃ request ∈ updates, ∃ id, request.Mentions id ∧ rows = id.index + 1})
      ((ofSize size).updateAll updates).size := by
  have initial := size_le_updateAll (ofSize size) updates
  rw [size_ofSize] at initial
  constructor
  · rcases size_updateAll_cases (ofSize size) updates with kept | ⟨request, member, grown⟩
    · left
      rw [kept, size_ofSize]
      rcases Nat.le_total size 1 with small | large
      · exact .inl (Nat.max_eq_right small)
      · exact .inr (Nat.max_eq_left large)
    · right
      have needed : request.neededRows ≠ 0 := by omega
      rcases exists_mentions needed with ⟨id, mentions, rows_eq⟩
      exact ⟨request, member, id, mentions, grown.trans rows_eq⟩
  · rintro rows (few | ⟨request, member, id, mentions, rfl⟩)
    · rcases few with rfl | rfl
      · omega
      · omega
    · exact (lt_neededRows mentions).trans (neededRows_le_size member)

/-- A graph is the map that some requests add up to. -/
structure IsMapOf (graph : CallGraph) (size : Nat) (updates : List GraphUpdate) : Prop where
  /-- An edge is absent if and only if it was never recorded. -/
  call?_eq_none_iff : ∀ edge, graph.call? edge = none ↔ edge ∉ edges updates
  /-- The value of an edge is the clamp of the exact sums of what was recorded for it. -/
  call_eq : ∀ edge call, graph.call? edge = some call →
    call = ⟨edge.callee, .ofNat (totalCalls edge updates), .ofNat (totalTime edge updates)⟩
  unattributed_eq : graph.unattributed = .ofNat (totalOutside updates)
  distinct : ∀ caller, ((graph.row caller).map Call.id).Nodup
  /-- A row lists its destinations in the order in which they were first recorded. -/
  order : ∀ caller, (graph.row caller).map Call.id = (destinations caller updates).eraseDups
  size_isGreatest : IsGreatest
    ({1, size} ∪ {rows | ∃ request ∈ updates, ∃ id, request.Mentions id ∧ rows = id.index + 1})
    graph.size
  inside : ∀ edge call, graph.call? edge = some call →
    edge.caller.index < graph.size ∧ edge.callee.index < graph.size
  mem_row_iff : ∀ caller call,
    call ∈ graph.row caller ↔ graph.call? ⟨caller, call.id⟩ = some call
  /-- All edges are listed row by row. -/
  calls_eq : graph.calls = (List.range graph.size).flatMap fun index =>
    (graph.row ⟨index⟩).map fun call => (⟨index⟩, call)
  mem_calls_iff : ∀ caller call,
    (caller, call) ∈ graph.calls ↔ graph.call? ⟨caller, call.id⟩ = some call
  mem_callersOf_iff : ∀ caller callee call,
    (caller, call) ∈ graph.callersOf callee ↔ graph.call? ⟨caller, callee⟩ = some call
  callersOf_ascend : ∀ callee, (graph.callersOf callee).Pairwise (·.1.index < ·.1.index)
  /-- Every edge counts once, however often it was recorded. -/
  edgeCount_eq : graph.edgeCount = (edges updates).eraseDups.length

theorem isMapOf_updateAll (size : Nat) (updates : List GraphUpdate) :
    ((ofSize size).updateAll updates).IsMapOf size updates := by
  have wf := wf_updateAll size updates
  have found_iff : ∀ edge, (∃ call, ((ofSize size).updateAll updates).call? edge = some call) ↔
      edge ∈ edges updates := by
    intro edge
    rw [call?_updateAll]
    split
    next member => simp [member]
    next absent => simp [absent]
  constructor
  case call?_eq_none_iff =>
    intro edge
    rw [← found_iff, Option.eq_none_iff_forall_ne_some, not_exists]
  case call_eq =>
    intro edge call found
    rw [call?_updateAll] at found
    split at found
    · exact (Option.some.inj found).symm
    · cases found
  case unattributed_eq => exact unattributed_updateAll size updates
  case distinct => exact wf.distinct
  case order =>
    intro caller
    rw [row_updateAll, List.map_map]
    exact List.map_id _
  case size_isGreatest => exact isGreatest_size size updates
  case inside => exact fun edge call => lt_size_of_call? wf
  case mem_row_iff => exact fun caller call => mem_row_iff wf
  case calls_eq => exact calls_eq _
  case mem_calls_iff => exact fun caller call => mem_calls.trans (mem_row_iff wf)
  case mem_callersOf_iff => exact fun caller callee call => mem_callersOf wf
  case callersOf_ascend => exact callersOf_ascend wf
  case edgeCount_eq =>
    rw [← length_recorded]
    apply List.Perm.length_eq
    rw [List.perm_ext_iff_of_nodup (nodup_recorded wf) (nodup_eraseDups _)]
    intro edge
    rw [mem_recorded_iff wf, found_iff, List.mem_eraseDups]

/-- Two graphs have the same number of rows, the same value for every edge and the same time
outside of calls. -/
structure SameMap (first second : CallGraph) : Prop where
  call?_eq : ∀ edge, first.call? edge = second.call? edge
  unattributed_eq : first.unattributed = second.unattributed
  size_eq : first.size = second.size

/-- **A call graph is a saturating map.**  Whatever requests built a graph, it is the map that
they add up to, and all orders of the same requests build the same map. -/
theorem updateAll_isMap (size : Nat) (updates : List GraphUpdate) :
    ((ofSize size).updateAll updates).IsMapOf size updates ∧
      ∀ reordered, updates.Perm reordered →
        ((ofSize size).updateAll updates).SameMap ((ofSize size).updateAll reordered) := by
  refine ⟨isMapOf_updateAll size updates, fun reordered perm => ?_⟩
  have same := updateAll_perm size perm
  exact ⟨same.call?_eq, same.unattributed_eq, same.size_eq⟩

theorem updateAll_isMap_tangle :
    Profile.tangle.Perm Profile.tangle.reverse ∧
      ((ofSize 2).updateAll Profile.tangle).SameMap
        ((ofSize 2).updateAll Profile.tangle.reverse) := by
  have reordered : Profile.tangle.Perm Profile.tangle.reverse := (List.reverse_perm _).symm
  exact ⟨reordered, (updateAll_isMap 2 Profile.tangle).2 _ reordered⟩

end CallGraph

end CallLedger

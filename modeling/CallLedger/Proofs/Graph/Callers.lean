import Mathlib.Data.List.Pairwise
import CallLedger.Proofs.Graph.Totals

/-!
# Callers of a block

The callers of a block are found by a scan over all edges.  In a well-formed graph every
row has at most one record of the block, so the scan finds the callers by identifier, each
once, and finds of each what the edge itself records.
-/

namespace CallLedger.CallGraph

variable {graph : CallGraph}

private theorem rows_zipIdx (graph : CallGraph) :
    graph.rows.toList.zipIdx =
      (List.range graph.size).map fun index => (graph.row ⟨index⟩, index) := by
  apply List.ext_getElem
  · simp [size]
  · intro index inside _
    have bound : index < graph.rows.size := by simpa using inside
    simp [row, bound]

theorem calls_eq (graph : CallGraph) :
    graph.calls =
      (List.range graph.size).flatMap fun index =>
        (graph.row ⟨index⟩).map fun call => (⟨index⟩, call) := by
  rw [calls, rows_zipIdx, List.flatMap_map]

/-- Where destinations are distinct, at most one record is kept. -/
private theorem filter_destination {row : Row} (distinct : (row.map Call.id).Nodup)
    (callee : BlockId) :
    row.filter (·.id == callee) = (row.find? (·.id == callee)).toList := by
  induction row with
  | nil => rfl
  | cons call rest ih =>
      rcases List.nodup_cons.mp distinct with ⟨fresh, restDistinct⟩
      by_cases equal : call.id = callee
      · have noOther : rest.filter (·.id == callee) = [] := by
          rw [List.filter_eq_nil_iff]
          intro other member same
          have sameId : other.id = call.id := (beq_iff_eq.mp same).trans equal.symm
          exact fresh (sameId ▸ List.mem_map_of_mem member)
        simp [equal, noOther]
      · simp [equal, ih restDistinct]

theorem callersOf_eq (wf : graph.WF) (callee : BlockId) :
    graph.callersOf callee =
      (List.range graph.size).filterMap fun index =>
        (graph.call? ⟨⟨index⟩, callee⟩).map fun call => (⟨index⟩, call) := by
  rw [callersOf, calls_eq, List.filter_flatMap, List.filterMap_eq_flatMap_toList]
  apply List.flatMap_congr
  intro index _
  rw [List.filter_map, Function.comp_def, filter_destination (wf.distinct _)]
  simp only [call?]
  cases (graph.row ⟨index⟩).find? (·.id == callee) <;> rfl

theorem lt_size_of_call? (wf : graph.WF) {edge : Edge} {call : Call}
    (found : graph.call? edge = some call) :
    edge.caller.index < graph.size ∧ edge.callee.index < graph.size := by
  have listed : call ∈ graph.row edge.caller := List.mem_of_find?_eq_some found
  constructor
  · apply Nat.lt_of_not_le
    intro outside
    have noRow : graph.row edge.caller = [] := by
      rw [row, Array.getElem?_eq_none outside, Option.getD_none]
    simp [noRow] at listed
  · have named : call.id = edge.callee := by simpa using List.find?_some found
    exact named ▸ wf.closed edge.caller call listed

theorem call?_eq_none (wf : graph.WF) {edge : Edge}
    (outside : ¬(edge.caller.index < graph.size ∧ edge.callee.index < graph.size)) :
    graph.call? edge = none :=
  Option.eq_none_iff_forall_ne_some.mpr fun _ found => outside (lt_size_of_call? wf found)

theorem mem_callersOf (wf : graph.WF) {caller callee : BlockId} {call : Call} :
    (caller, call) ∈ graph.callersOf callee ↔ graph.call? ⟨caller, callee⟩ = some call := by
  rw [callersOf_eq wf, List.mem_filterMap]
  constructor
  · rintro ⟨index, _, found⟩
    rcases Option.map_eq_some_iff.mp found with ⟨other, edge, equal⟩
    cases equal
    exact edge
  · intro found
    have inside := (lt_size_of_call? wf found).1
    exact ⟨caller.index, List.mem_range.mpr inside, by simp [found]⟩

theorem callersOf_ascend (wf : graph.WF) (callee : BlockId) :
    (graph.callersOf callee).Pairwise (·.1.index < ·.1.index) := by
  rw [callersOf_eq wf]
  apply List.pairwise_lt_range.filterMap
  intro left right before leftEntry leftFound rightEntry rightFound
  rcases Option.map_eq_some_iff.mp leftFound with ⟨_, _, rfl⟩
  rcases Option.map_eq_some_iff.mp rightFound with ⟨_, _, rfl⟩
  exact before

theorem find?_callersOf (wf : graph.WF) (caller callee : BlockId) :
    (graph.callersOf callee).find? (·.1 == caller) =
      (graph.call? ⟨caller, callee⟩).map fun call => (caller, call) := by
  cases found : (graph.callersOf callee).find? (·.1 == caller) with
  | none =>
      cases edge : graph.call? ⟨caller, callee⟩ with
      | none => rfl
      | some call =>
          have missed := List.find?_eq_none.mp found _ ((mem_callersOf wf).mpr edge)
          simp at missed
  | some entry =>
      rcases entry with ⟨source, call⟩
      have same : source = caller := by simpa using List.find?_some found
      subst same
      have edge := (mem_callersOf wf).mp (List.mem_of_find?_eq_some found)
      rw [edge, Option.map_some]

end CallLedger.CallGraph

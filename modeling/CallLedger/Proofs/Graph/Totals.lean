import Mathlib.Algebra.BigOperators.Group.List.Basic
import Mathlib.Algebra.GroupWithZero.Nat
import CallLedger.CallGraph
import CallLedger.Proofs.FirstSeen

/-!
# A call graph is the totals of its updates

A graph is only ever changed by requests that add to it.  The main result is an equation
for every row of a graph that was built from nothing by any sequence of requests: the
destinations in the order in which they were first recorded, each with the clamp of its
exact totals.  Everything else that can be asked of a graph follows from it, and since
exact totals do not depend on the order of the requests, neither do the answers.
-/

namespace CallLedger

/-- A request that changes a call graph. -/
inductive GraphUpdate where
  /-- Add calls and time to an edge. -/
  | record (edge : Edge) (count time : Count)
  /-- Add time that belongs to no call. -/
  | unattributed (time : Count)
  /-- Have a row for a block. -/
  | ensureRow (id : BlockId)
  /-- Have a row for every block of a registry. -/
  | track (registry : Registry)

namespace GraphUpdate

/-- The edge that is recorded, if one is. -/
def edge? : GraphUpdate → Option Edge
  | record edge _ _ => some edge
  | _ => none

/-- How many calls of an edge a request adds. -/
def callsOn (edge : Edge) : GraphUpdate → Nat
  | record other count _ => if other = edge then count.value else 0
  | _ => 0

/-- How much time of an edge a request adds. -/
def timeOn (edge : Edge) : GraphUpdate → Nat
  | record other _ time => if other = edge then time.value else 0
  | _ => 0

/-- How much time outside of calls a request adds. -/
def timeOutside : GraphUpdate → Nat
  | unattributed time => time.value
  | _ => 0

/-- How many rows a request asks for. -/
def neededRows : GraphUpdate → Nat
  | record edge _ _ => max edge.caller.index edge.callee.index + 1
  | unattributed _ => 0
  | ensureRow id => id.index + 1
  | track registry => registry.size

/-- The edges that are recorded, as often as they are. -/
def edges (updates : List GraphUpdate) : List Edge :=
  updates.filterMap edge?

/-- Exact number of calls of an edge. -/
def totalCalls (edge : Edge) (updates : List GraphUpdate) : Nat :=
  (updates.map (callsOn edge)).sum

/-- Exact time of an edge. -/
def totalTime (edge : Edge) (updates : List GraphUpdate) : Nat :=
  (updates.map (timeOn edge)).sum

/-- Exact time outside of calls. -/
def totalOutside (updates : List GraphUpdate) : Nat :=
  (updates.map timeOutside).sum

/-- The destinations recorded for a calling block, as often as they are. -/
def destinations (caller : BlockId) (updates : List GraphUpdate) : List BlockId :=
  ((edges updates).filter (·.caller = caller)).map Edge.callee

/-- The record that a row has to hold for an edge. -/
def tally (updates : List GraphUpdate) (edge : Edge) : Call where
  id := edge.callee
  count := .ofNat (totalCalls edge updates)
  time := .ofNat (totalTime edge updates)

theorem adds_nothing {edge : Edge} {request : GraphUpdate}
    (other : request.edge? ≠ some edge) :
    callsOn edge request = 0 ∧ timeOn edge request = 0 := by
  cases request with
  | record recorded count time =>
      have different : recorded ≠ edge := fun equal => other (congrArg some equal)
      simp [callsOn, timeOn, different]
  | unattributed | ensureRow | track => exact ⟨rfl, rfl⟩

theorem totals_of_not_mem {edge : Edge} {updates : List GraphUpdate}
    (absent : edge ∉ edges updates) :
    totalCalls edge updates = 0 ∧ totalTime edge updates = 0 := by
  have nothing : ∀ request ∈ updates,
      callsOn edge request = 0 ∧ timeOn edge request = 0 := fun request member =>
    adds_nothing fun recorded =>
      absent (List.mem_filterMap.mpr ⟨request, member, recorded⟩)
  constructor
  · apply List.sum_eq_zero
    simpa using fun request member => (nothing request member).1
  · apply List.sum_eq_zero
    simpa using fun request member => (nothing request member).2

theorem mem_destinations {caller callee : BlockId} {updates : List GraphUpdate} :
    callee ∈ destinations caller updates ↔ ⟨caller, callee⟩ ∈ edges updates := by
  simp only [destinations, List.mem_map, List.mem_filter, decide_eq_true_eq]
  constructor
  · rintro ⟨edge, ⟨member, rfl⟩, rfl⟩
    exact member
  · intro member
    exact ⟨_, ⟨member, rfl⟩, rfl⟩

@[simp] theorem edges_append (first second : List GraphUpdate) :
    edges (first ++ second) = edges first ++ edges second := by
  simp [edges]

@[simp] theorem totalCalls_append (edge : Edge) (first second : List GraphUpdate) :
    totalCalls edge (first ++ second) = totalCalls edge first + totalCalls edge second := by
  simp [totalCalls]

@[simp] theorem totalTime_append (edge : Edge) (first second : List GraphUpdate) :
    totalTime edge (first ++ second) = totalTime edge first + totalTime edge second := by
  simp [totalTime]

@[simp] theorem totalOutside_append (first second : List GraphUpdate) :
    totalOutside (first ++ second) = totalOutside first + totalOutside second := by
  simp [totalOutside]

@[simp] theorem destinations_append (caller : BlockId) (first second : List GraphUpdate) :
    destinations caller (first ++ second) =
      destinations caller first ++ destinations caller second := by
  simp [destinations]

theorem destinations_singleton_record (edge : Edge) (count time : Count) :
    destinations edge.caller [.record edge count time] = [edge.callee] := by
  simp [destinations, edges, edge?]

theorem destinations_singleton_of_ne {caller : BlockId} {request : GraphUpdate}
    (other : ∀ edge, request.edge? = some edge → edge.caller ≠ caller) :
    destinations caller [request] = [] := by
  cases recorded : request.edge? with
  | none => simp [destinations, edges, recorded]
  | some edge => simp [destinations, edges, recorded, other edge recorded]

theorem tally_concat_record (updates : List GraphUpdate) (edge : Edge) (count time : Count) :
    tally (updates ++ [.record edge count time]) edge =
      ⟨edge.callee, (tally updates edge).count + count, (tally updates edge).time + time⟩ := by
  have calls : totalCalls edge [.record edge count time] = count.value := by
    simp [totalCalls, callsOn]
  have spent : totalTime edge [.record edge count time] = time.value := by
    simp [totalTime, timeOn]
  simp only [tally, totalCalls_append, totalTime_append, Count.ofNat_add, calls, spent,
    Count.ofNat_value]

theorem tally_concat_of_ne {updates : List GraphUpdate} {request : GraphUpdate} {edge : Edge}
    (other : request.edge? ≠ some edge) :
    tally (updates ++ [request]) edge = tally updates edge := by
  have nothing := adds_nothing other
  simp only [tally, totalCalls_append, totalTime_append]
  simp [totalCalls, totalTime, nothing.1, nothing.2]

theorem tally_of_not_mem {updates : List GraphUpdate} {edge : Edge}
    (absent : edge ∉ edges updates) : tally updates edge = ⟨edge.callee, 0, 0⟩ := by
  have nothing := totals_of_not_mem absent
  rw [tally, nothing.1, nothing.2]
  rfl

end GraphUpdate

/-- Recording a destination that a row already lists changes its record alone. -/
theorem Row.record_of_mem {callee : BlockId} {count time : Count} {ids : List BlockId}
    {call : BlockId → Call} (named : ∀ id, (call id).id = id) (distinct : ids.Nodup)
    (member : callee ∈ ids) :
    Row.record callee count time (ids.map call) =
      ids.map fun id =>
        if id = callee then
          ⟨id, (call id).count + count, (call id).time + time⟩
        else call id := by
  induction ids with
  | nil => simp at member
  | cons id rest ih =>
      rcases List.nodup_cons.mp distinct with ⟨fresh, restDistinct⟩
      simp only [List.map_cons, Row.record, named]
      by_cases equal : id = callee
      · subst equal
        have others : ∀ other ∈ rest, other ≠ id := fun other otherMember same =>
          fresh (same ▸ otherMember)
        simp only [if_true, List.cons.injEq, true_and]
        exact List.map_congr_left fun other otherMember => by
          simp [others other otherMember]
      · have restMember : callee ∈ rest := by
          simpa [Ne.symm equal] using member
        simp only [equal, if_false, List.cons.injEq, true_and]
        exact ih restDistinct restMember

/-- A destination that a row does not list is added at its end. -/
theorem Row.record_of_not_mem {callee : BlockId} {count time : Count} {row : Row}
    (absent : ∀ call ∈ row, call.id ≠ callee) :
    Row.record callee count time row = row ++ [⟨callee, count, time⟩] := by
  induction row with
  | nil => rfl
  | cons call rest ih =>
      have different := absent call (by simp)
      have restAbsent : ∀ other ∈ rest, other.id ≠ callee := fun other member =>
        absent other (by simp [member])
      simp only [Row.record, different, if_false, List.cons_append, ih restAbsent]

namespace CallGraph

open GraphUpdate

/-- Carry out a request. -/
def update (graph : CallGraph) : GraphUpdate → CallGraph
  | .record edge count time => graph.record edge count time
  | .unattributed time => graph.recordUnattributed time
  | .ensureRow id => graph.ensureRow id
  | .track registry => graph.track registry

/-- Carry out several requests, one after the other. -/
def updateAll (graph : CallGraph) (updates : List GraphUpdate) : CallGraph :=
  updates.foldl update graph

@[simp] theorem updateAll_nil (graph : CallGraph) : graph.updateAll [] = graph := rfl

@[simp] theorem updateAll_append (graph : CallGraph) (first second : List GraphUpdate) :
    graph.updateAll (first ++ second) = (graph.updateAll first).updateAll second := by
  simp [updateAll]

@[simp] theorem updateAll_singleton (graph : CallGraph) (request : GraphUpdate) :
    graph.updateAll [request] = graph.update request := rfl

@[simp] theorem row_ofSize (size : Nat) (caller : BlockId) : (ofSize size).row caller = [] := by
  simp only [row, ofSize, Array.getElem?_replicate]
  split <;> rfl

theorem row_update_of_ne {graph : CallGraph} {request : GraphUpdate} {caller : BlockId}
    (other : ∀ edge, request.edge? = some edge → edge.caller ≠ caller) :
    (graph.update request).row caller = graph.row caller := by
  cases request with
  | record edge count time =>
      rw [update, row_record, if_neg (Ne.symm (other edge rfl))]
  | unattributed time => rfl
  | ensureRow id => exact row_ensureRow graph id caller
  | track registry => exact row_ensureRow graph registry.lastId caller

/-- A row lists what was recorded for its block: each destination once, in the order of
first record, with the clamp of its exact totals. -/
theorem row_updateAll (size : Nat) (updates : List GraphUpdate) (caller : BlockId) :
    ((ofSize size).updateAll updates).row caller =
      (destinations caller updates).eraseDups.map fun callee =>
        tally updates ⟨caller, callee⟩ := by
  induction updates using List.reverseRecOn with
  | nil => simp [destinations, edges]
  | append_singleton updates request ih =>
      rw [updateAll_append, updateAll_singleton, destinations_append]
      -- Only a record of an edge from this very block can change the row.
      by_cases own : ∃ edge, request.edge? = some edge ∧ edge.caller = caller
      · rcases own with ⟨⟨source, callee⟩, recorded, rfl⟩
        cases request with
        | record edge count time =>
            cases recorded
            rw [update, row_record, if_pos rfl, ih, destinations_singleton_record,
              eraseDups_concat]
            split
            next seen =>
              rw [Row.record_of_mem (fun _ => rfl) (nodup_eraseDups _)
                (List.mem_eraseDups.mpr seen)]
              apply List.map_congr_left
              intro id _
              split
              next equal => subst equal; rw [tally_concat_record]
              next different =>
                rw [tally_concat_of_ne]
                simpa [edge?] using Ne.symm different
            next unseen =>
              have notListed : ∀ id ∈ (destinations source updates).eraseDups,
                  id ≠ callee := fun id member equal =>
                unseen (List.mem_eraseDups.mp (equal ▸ member))
              have notRecorded : ⟨source, callee⟩ ∉ edges updates := fun member =>
                unseen (mem_destinations.mpr member)
              rw [Row.record_of_not_mem (by simpa [tally] using notListed), List.map_append]
              congr 1
              · apply List.map_congr_left
                intro id member
                rw [tally_concat_of_ne]
                simpa [edge?] using Ne.symm (notListed id member)
              · simp only [List.map_cons, List.map_nil, tally_concat_record,
                  tally_of_not_mem notRecorded, Count.zero_add]
        | unattributed | ensureRow | track => cases recorded
      · have other : ∀ edge, request.edge? = some edge → edge.caller ≠ caller :=
          fun edge recorded same => own ⟨edge, recorded, same⟩
        rw [row_update_of_ne other, destinations_singleton_of_ne other, List.append_nil, ih]
        apply List.map_congr_left
        intro id _
        rw [tally_concat_of_ne fun recorded => other _ recorded rfl]

@[simp] theorem unattributed_ensureRow (graph : CallGraph) (id : BlockId) :
    (graph.ensureRow id).unattributed = graph.unattributed := by
  unfold ensureRow
  split <;> rfl

theorem unattributed_update (graph : CallGraph) (request : GraphUpdate) :
    (graph.update request).unattributed =
      graph.unattributed + .ofNat request.timeOutside := by
  cases request with
  | record edge count time =>
      have same := unattributed_ensureRow graph ⟨max edge.caller.index edge.callee.index⟩
      exact same.trans (Count.add_zero _).symm
  | unattributed time => simp [update, recordUnattributed, timeOutside]
  | ensureRow id => exact (unattributed_ensureRow graph id).trans (Count.add_zero _).symm
  | track registry =>
      exact (unattributed_ensureRow graph registry.lastId).trans (Count.add_zero _).symm

theorem unattributed_updateAll (size : Nat) (updates : List GraphUpdate) :
    ((ofSize size).updateAll updates).unattributed = .ofNat (totalOutside updates) := by
  induction updates using List.reverseRecOn with
  | nil => rfl
  | append_singleton updates request ih =>
      rw [updateAll_append, updateAll_singleton, unattributed_update, ih,
        totalOutside_append, Count.ofNat_add]
      simp [totalOutside]

@[simp] theorem size_ofSize (size : Nat) : (ofSize size).size = max size 1 := by
  simp [ofSize, CallGraph.size]

theorem size_update (graph : CallGraph) (request : GraphUpdate) :
    (graph.update request).size = max graph.size request.neededRows := by
  cases request with
  | record edge count time => exact size_record graph edge count time
  | unattributed time => exact (Nat.max_eq_left (Nat.zero_le _)).symm
  | ensureRow id => exact size_ensureRow graph id
  | track registry => exact size_ensureRow graph registry.lastId

theorem size_updateAll (graph : CallGraph) (updates : List GraphUpdate) :
    (graph.updateAll updates).size = (updates.map neededRows).foldl max graph.size := by
  induction updates generalizing graph with
  | nil => rfl
  | cons request rest ih =>
      rw [List.map_cons, List.foldl_cons, ← size_update]
      exact ih (graph.update request)

theorem size_updateAll_le {graph : CallGraph} {updates : List GraphUpdate} {bound : Nat}
    (initial : graph.size ≤ bound) (needs : ∀ request ∈ updates, request.neededRows ≤ bound) :
    (graph.updateAll updates).size ≤ bound := by
  induction updates generalizing graph with
  | nil => exact initial
  | cons request rest ih =>
      apply ih
      · rw [size_update]
        exact Nat.max_le.mpr ⟨initial, needs request List.mem_cons_self⟩
      · intro other member
        exact needs other (List.mem_cons_of_mem _ member)

theorem call?_eq_of_row {graph : CallGraph} {edge : Edge} {ids : List BlockId}
    {call : BlockId → Call} (named : ∀ id, (call id).id = id)
    (row_eq : graph.row edge.caller = ids.map call) :
    graph.call? edge = if edge.callee ∈ ids then some (call edge.callee) else none := by
  rw [call?, row_eq, List.find?_map]
  cases found : ids.find? ((·.id == edge.callee) ∘ call) with
  | none =>
      have absent : edge.callee ∉ ids := fun member => by
        have missed := List.find?_eq_none.mp found edge.callee member
        simp [named] at missed
      rw [if_neg absent, Option.map_none]
  | some id =>
      have equal : id = edge.callee := by simpa [named] using List.find?_some found
      subst equal
      rw [if_pos (List.mem_of_find?_eq_some found), Option.map_some]

theorem call?_updateAll (size : Nat) (updates : List GraphUpdate) (edge : Edge) :
    ((ofSize size).updateAll updates).call? edge =
      if edge ∈ edges updates then some (tally updates edge) else none := by
  rw [call?_eq_of_row (fun _ => rfl) (row_updateAll size updates edge.caller)]
  simp only [List.mem_eraseDups, mem_destinations]

/-- A graph is what its rows and its time outside of calls are. -/
theorem ext_of_row {left right : CallGraph} (size_eq : left.size = right.size)
    (row_eq : ∀ caller, left.row caller = right.row caller)
    (unattributed_eq : left.unattributed = right.unattributed) : left = right := by
  rcases left with ⟨leftRows, leftTime⟩
  rcases right with ⟨rightRows, rightTime⟩
  cases unattributed_eq
  have rows_eq : leftRows = rightRows := by
    apply Array.ext size_eq
    intro index insideLeft insideRight
    have same := row_eq ⟨index⟩
    simpa only [row, Array.getElem?_eq_getElem insideLeft,
      Array.getElem?_eq_getElem insideRight, Option.getD_some] using same
  rw [rows_eq]

/-- What every graph has that is built by requests: a root row, at most one record for a
destination in each row, and a row for every destination. -/
structure WF (graph : CallGraph) : Prop where
  nonempty : 0 < graph.size
  distinct : ∀ caller, ((graph.row caller).map Call.id).Nodup
  closed : ∀ caller, ∀ call ∈ graph.row caller, call.id.index < graph.size

private theorem size_le_foldl_max (needs : List Nat) (size : Nat) :
    size ≤ needs.foldl max size ∧ ∀ need ∈ needs, need ≤ needs.foldl max size := by
  induction needs generalizing size with
  | nil => simp
  | cons need rest ih =>
      rcases ih (max size need) with ⟨start, others⟩
      simp only [List.foldl_cons, List.mem_cons, forall_eq_or_imp]
      exact ⟨by omega, by omega, others⟩

/-- Requests never take rows away. -/
theorem size_le_updateAll (graph : CallGraph) (updates : List GraphUpdate) :
    graph.size ≤ (graph.updateAll updates).size := by
  rw [size_updateAll]
  exact (size_le_foldl_max _ _).1

theorem neededRows_le_size {graph : CallGraph} {updates : List GraphUpdate}
    {request : GraphUpdate} (member : request ∈ updates) :
    request.neededRows ≤ (graph.updateAll updates).size := by
  rw [size_updateAll]
  exact (size_le_foldl_max _ _).2 _ (List.mem_map_of_mem member)

/-- It makes no difference whether rows are added before or after the requests. -/
theorem track_updateAll {updates : List GraphUpdate} {registry : Registry}
    (fits : ((ofSize 1).updateAll updates).size ≤ registry.size) :
    ((ofSize 1).updateAll updates).track registry =
      (ofSize registry.size).updateAll updates := by
  have tracked_size : (((ofSize 1).updateAll updates).track registry).size = registry.size :=
    (size_update _ (.track registry)).trans (Nat.max_eq_right fits)
  apply ext_of_row
  · rw [tracked_size]
    apply Nat.le_antisymm
    · have kept := size_le_updateAll (ofSize registry.size) updates
      rw [size_ofSize] at kept
      exact Nat.le_trans (Nat.le_max_left ..) kept
    · apply size_updateAll_le
      · rw [size_ofSize, Registry.size_eq]
        omega
      · intro request requested
        exact Nat.le_trans (neededRows_le_size requested) fits
  · intro caller
    rw [track, row_ensureRow, row_updateAll, row_updateAll]
  · rw [track, unattributed_ensureRow, unattributed_updateAll, unattributed_updateAll]

theorem edge_lt_size {graph : CallGraph} {updates : List GraphUpdate} {edge : Edge}
    (member : edge ∈ edges updates) :
    edge.caller.index < (graph.updateAll updates).size ∧
      edge.callee.index < (graph.updateAll updates).size := by
  rcases List.mem_filterMap.mp member with ⟨request, requested, recorded⟩
  have needed : request.neededRows ≤ (graph.updateAll updates).size :=
    neededRows_le_size requested
  cases request with
  | record other count time =>
      cases recorded
      simp only [neededRows] at needed
      omega
  | unattributed | ensureRow | track => cases recorded

theorem wf_updateAll (size : Nat) (updates : List GraphUpdate) :
    ((ofSize size).updateAll updates).WF where
  nonempty := by
    have kept := size_le_updateAll (ofSize size) updates
    rw [size_ofSize] at kept
    omega
  distinct caller := by
    rw [row_updateAll, List.map_map]
    simpa [tally, Function.comp_def] using nodup_eraseDups (destinations caller updates)
  closed caller call member := by
    rw [row_updateAll] at member
    rcases List.mem_map.mp member with ⟨callee, listed, rfl⟩
    have recorded := mem_destinations.mp (List.mem_eraseDups.mp listed)
    exact (edge_lt_size recorded).2

end CallGraph

end CallLedger

import Mathlib.Data.List.Forall2
import CallLedger.Ranking
import CallLedger.Proofs.Graph.Aggregation

/-!
# The order of requests

Requests add up in whatever order they come, so graphs built by the same requests differ at
most in the order in which their rows list the destinations.  Profiles of such graphs
differ at most in the order of the callees: callers are listed by identifier, and all
totals are the same.
-/

namespace CallLedger

open GraphUpdate

/-- Two graphs with the same records, whose rows may list them in different orders. -/
structure CallGraph.SameUpToOrder (first second : CallGraph) : Prop where
  size_eq : first.size = second.size
  unattributed_eq : first.unattributed = second.unattributed
  call?_eq : ∀ edge, first.call? edge = second.call? edge
  row_perm : ∀ caller, (first.row caller).Perm (second.row caller)

/-- Two records of a block that differ at most in the order of its callees. -/
structure BlockProfile.SameUpToOrder (first second : BlockProfile) : Prop where
  id_eq : first.id = second.id
  count_eq : first.count = second.count
  time_eq : first.time = second.time
  selfTime_eq : first.selfTime = second.selfTime
  callers_eq : first.callers = second.callers
  callees_perm : first.callees.Perm second.callees

/-- Two profiles whose blocks differ at most in the order of their callees. -/
structure Profile.SameUpToOrder (first second : Profile) : Prop where
  blocks : List.Forall₂ BlockProfile.SameUpToOrder first.blocks second.blocks
  totalTime_eq : first.totalTime = second.totalTime
  covered_eq : first.covered = second.covered
  byTime_eq : first.byTime.map (·.id) = second.byTime.map (·.id)

/-- Two answers to the request for a profile: refused for the same reason, or profiles that
differ at most in the order of callees. -/
inductive Profile.SameOutcome :
    Except Violation Profile → Except Violation Profile → Prop where
  | refused (violation : Violation) : SameOutcome (.error violation) (.error violation)
  | computed {first second : Profile} (same : first.SameUpToOrder second) :
      SameOutcome (.ok first) (.ok second)

namespace GraphUpdate

variable {first second : List GraphUpdate}

theorem edges_perm (reordered : first.Perm second) : (edges first).Perm (edges second) :=
  reordered.filterMap edge?

theorem destinations_perm (reordered : first.Perm second) (caller : BlockId) :
    (destinations caller first).Perm (destinations caller second) :=
  ((edges_perm reordered).filter _).map _

theorem tally_perm (reordered : first.Perm second) : tally first = tally second := by
  funext edge
  rw [tally, tally, totalCalls, totalCalls, totalTime, totalTime,
    (reordered.map (callsOn edge)).sum_eq, (reordered.map (timeOn edge)).sum_eq]

theorem totalOutside_perm (reordered : first.Perm second) :
    totalOutside first = totalOutside second :=
  (reordered.map timeOutside).sum_eq

end GraphUpdate

namespace CallGraph

/-- Requests may be carried out in any order. -/
theorem updateAll_perm (size : Nat) {first second : List GraphUpdate}
    (reordered : first.Perm second) :
    ((ofSize size).updateAll first).SameUpToOrder ((ofSize size).updateAll second) where
  size_eq := by
    rw [size_updateAll, size_updateAll]
    exact (reordered.map neededRows).foldl_eq _
  unattributed_eq := by
    rw [unattributed_updateAll, unattributed_updateAll, totalOutside_perm reordered]
  call?_eq := by
    intro edge
    have sameEdges : edge ∈ edges first ↔ edge ∈ edges second :=
      (edges_perm reordered).mem_iff
    rw [call?_updateAll, call?_updateAll, tally_perm reordered]
    simp only [sameEdges]
  row_perm := by
    intro caller
    rw [row_updateAll, row_updateAll, tally_perm reordered]
    exact (eraseDups_perm (destinations_perm reordered caller)).map _

theorem SameUpToOrder.callersOf_eq {first second : CallGraph}
    (same : first.SameUpToOrder second) (firstWF : first.WF) (secondWF : second.WF)
    (callee : BlockId) : first.callersOf callee = second.callersOf callee := by
  rw [CallGraph.callersOf_eq firstWF, CallGraph.callersOf_eq secondWF, same.size_eq]
  simp only [same.call?_eq]

end CallGraph

theorem BlockProfile.selfTime_congr {first second : BlockProfile}
    (sameRecord : first.toCall = second.toCall) (reordered : first.callees.Perm second.callees) :
    first.selfTime = second.selfTime := by
  have sameCalls : (first.callees.filter (·.id != second.id)).Perm
      (second.callees.filter (·.id != second.id)) := reordered.filter _
  have sameTimes := (sameCalls.map Call.time).map Count.value
  rw [selfTime, selfTime, sameRecord, Count.sum_eq, Count.sum_eq, sameTimes.sum_eq]

theorem BlockProfile.toCall_eq {first second : BlockProfile} (id_eq : first.id = second.id)
    (count_eq : first.count = second.count) (time_eq : first.time = second.time) :
    first.toCall = second.toCall := by
  rcases first with ⟨⟨_, _, _⟩, _, _⟩
  cases id_eq
  cases count_eq
  cases time_eq
  rfl

namespace Profile

/-- What a profile says of its blocks, without their callers and callees. -/
def records (profile : Profile) : List Call :=
  profile.blocks.map BlockProfile.toCall

/-- Ranking looks at the record of a block alone. -/
private def ranked (left right : Call) : Bool :=
  BlockProfile.rankedBefore ⟨left, [], []⟩ ⟨right, [], []⟩

private theorem records_byTime (profile : Profile) :
    profile.byTime.map BlockProfile.toCall = profile.records.mergeSort ranked :=
  List.map_mergeSort fun _ _ _ _ => rfl

private theorem covered_eq (profile : Profile) :
    profile.covered = (profile.records.filter (0 < ·.count)).length := by
  rw [covered, records, List.filter_map, List.length_map]
  rfl

theorem sameUpToOrder_of_blocks {first second : Profile}
    (blocks : List.Forall₂ BlockProfile.SameUpToOrder first.blocks second.blocks) :
    first.SameUpToOrder second := by
  have records_eq : first.records = second.records := by
    rw [records, records, ← List.forall₂_eq_eq_eq, List.forall₂_map_left_iff,
      List.forall₂_map_right_iff]
    exact blocks.imp fun _ _ same =>
      BlockProfile.toCall_eq same.id_eq same.count_eq same.time_eq
  constructor
  case blocks => exact blocks
  case totalTime_eq =>
    cases blocks with
    | cons root _ => exact root.time_eq
  case covered_eq => rw [covered_eq, covered_eq, records_eq]
  case byTime_eq =>
    have ranking := congrArg (List.map Call.id)
      ((records_byTime first).trans (records_eq ▸ (records_byTime second).symm))
    rwa [List.map_map, List.map_map] at ranking

/-- Profiles of graphs that differ in order alone differ in order alone. -/
theorem Reflects.sameUpToOrder {first second : Profile} {firstGraph secondGraph : CallGraph}
    (same : firstGraph.SameUpToOrder secondGraph) (firstWF : firstGraph.WF)
    (secondWF : secondGraph.WF) (firstReflects : first.Reflects firstGraph)
    (secondReflects : second.Reflects secondGraph) : first.SameUpToOrder second := by
  have block_same : ∀ id left right, first.get? id = some left → second.get? id = some right →
      left.SameUpToOrder right := by
    intro id left right leftFound rightFound
    have id_eq : left.id = right.id :=
      (firstReflects.id_eq id left leftFound).trans
        (secondReflects.id_eq id right rightFound).symm
    have callees_perm : left.callees.Perm right.callees := by
      rw [firstReflects.callees_eq id left leftFound,
        secondReflects.callees_eq id right rightFound]
      exact same.row_perm id
    have totals : left.count = right.count ∧ left.time = right.time ∧
        left.callers = right.callers := by
      by_cases root : id = .root
      · subst root
        have left_eq : first.root = left := Option.some.inj leftFound
        have right_eq : second.root = right := Option.some.inj rightFound
        have times := ((same.row_perm .root).map (·.time.value)).sum_eq
        rw [← left_eq, ← right_eq, firstReflects.root_count, secondReflects.root_count,
          firstReflects.root_callers, secondReflects.root_callers, firstReflects.root_time,
          secondReflects.root_time, same.unattributed_eq, times]
        exact ⟨rfl, rfl, rfl⟩
      · have callers_eq : left.callers = right.callers := by
          rw [firstReflects.callers_eq id left leftFound root,
            secondReflects.callers_eq id right rightFound root,
            same.callersOf_eq firstWF secondWF]
        rw [firstReflects.count_eq id left leftFound root,
          secondReflects.count_eq id right rightFound root,
          firstReflects.time_eq id left leftFound root,
          secondReflects.time_eq id right rightFound root, callers_eq]
        exact ⟨rfl, rfl, rfl⟩
    rcases totals with ⟨count_eq, time_eq, callers_eq⟩
    have record_eq := BlockProfile.toCall_eq id_eq count_eq time_eq
    exact ⟨id_eq, count_eq, time_eq, BlockProfile.selfTime_congr record_eq callees_perm,
      callers_eq, callees_perm⟩
  apply sameUpToOrder_of_blocks
  rw [List.forall₂_iff_get]
  constructor
  · exact (firstReflects.size_eq.trans same.size_eq).trans secondReflects.size_eq.symm
  · intro index leftInside rightInside
    exact block_same ⟨index⟩ _ _ (List.getElem?_eq_getElem leftInside)
      (List.getElem?_eq_getElem rightInside)

/-- The same requests lead to the same profile, in whatever order they were made. -/
theorem compute_perm (size : Nat) {first second : List GraphUpdate}
    (reordered : first.Perm second) (registry : Registry) :
    SameOutcome (compute ((CallGraph.ofSize size).updateAll first) registry)
      (compute ((CallGraph.ofSize size).updateAll second) registry) := by
  have same := CallGraph.updateAll_perm size reordered
  have firstWF := CallGraph.wf_updateAll size first
  have secondWF := CallGraph.wf_updateAll size second
  by_cases covered : registry.size ≤ ((CallGraph.ofSize size).updateAll first).size
  · rcases reflects_of_wf firstWF covered with ⟨left, leftComputed, leftReflects⟩
    obtain ⟨right, rightComputed, rightReflects⟩ :=
      reflects_of_wf secondWF (same.size_eq ▸ covered)
    rw [leftComputed, rightComputed]
    exact .computed (leftReflects.sameUpToOrder same firstWF secondWF rightReflects)
  · rw [compute, if_neg covered, compute, if_neg (same.size_eq ▸ covered), same.size_eq]
    exact .refused _

end Profile

end CallLedger

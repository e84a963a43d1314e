import Mathlib.Logic.Equiv.Defs
import CallLedger.Proofs.Run.Totals

/-!
# Numbers of blocks do not matter

Blocks are numbered in the order in which they are met, and everything that is kept of them
is kept by number.  If the same calls and samples are reported with other numbers, and in
another order, the profile shows the same under the other numbers.  Totals are clamped at the
end or on the way to the same effect, so this holds beyond the limit of counts as well.
-/

namespace CallLedger

/-- Other numbers for all blocks, the root keeping its own. -/
structure Renumbering extends BlockId ≃ BlockId where
  root_eq : toFun .root = .root

instance : CoeFun Renumbering fun _ => BlockId → BlockId :=
  ⟨fun renumbering => renumbering.toFun⟩

variable (renumbering : Renumbering)

@[simp] theorem Renumbering.root : renumbering .root = .root :=
  renumbering.root_eq

theorem Renumbering.eq_iff {left right : BlockId} :
    renumbering left = renumbering right ↔ left = right :=
  renumbering.toEquiv.injective.eq_iff

/-- The same edge under other numbers. -/
def Edge.renumber (edge : Edge) : Edge :=
  ⟨renumbering edge.caller, renumbering edge.callee⟩

/-- The same record under another number. -/
def Call.renumber (call : Call) : Call :=
  { call with id := renumbering call.id }

/-- The same call or sample under other numbers. -/
def Activity.renumber : Activity → Activity
  | entered call => entered (call.renumber renumbering)
  | sampled inProgress time => sampled (inProgress.map (Edge.renumber renumbering)) time

theorem Edge.renumber_injective : Function.Injective (Edge.renumber renumbering) := by
  rintro ⟨leftCaller, leftCallee⟩ ⟨rightCaller, rightCallee⟩ same
  have caller_eq : leftCaller = rightCaller :=
    renumbering.eq_iff.mp (congrArg Edge.caller same)
  have callee_eq : leftCallee = rightCallee :=
    renumbering.eq_iff.mp (congrArg Edge.callee same)
  rw [caller_eq, callee_eq]

theorem Edge.callee_renumber_eq (edge : Edge) (id : BlockId) :
    decide ((edge.renumber renumbering).callee = renumbering id) = decide (edge.callee = id) := by
  rw [renumber, decide_eq_decide, renumbering.eq_iff]

theorem Edge.caller_renumber_eq (edge : Edge) (id : BlockId) :
    decide ((edge.renumber renumbering).caller = renumbering id) = decide (edge.caller = id) := by
  rw [renumber, decide_eq_decide, renumbering.eq_iff]

theorem Edge.leadsAway_renumber (edge : Edge) (id : BlockId) :
    (edge.renumber renumbering).leadsAway (renumbering id) = edge.leadsAway id := by
  simp only [leadsAway, renumber, renumbering.eq_iff, bne, beq_eq_decide]

theorem callsAlong_renumber (caller : BlockId) (path : List BlockId) :
    callsAlong (renumbering caller) (path.map renumbering) =
      (callsAlong caller path).map (Edge.renumber renumbering) := by
  induction path generalizing caller with
  | nil => rfl
  | cons callee rest ih =>
      rw [List.map_cons, callsAlong, ih, callsAlong, List.map_cons]
      rfl

namespace Activity

/-- The second log has what the first one has, under other numbers and in some order. -/
def Renumbered (first second : List Activity) : Prop :=
  second.Perm (first.map (renumber renumbering))

variable {renumbering} {first second : List Activity}

namespace Renumbered

variable (renumbered : Renumbered renumbering first second)

include renumbered

theorem calls_perm :
    (calls second).Perm ((calls first).map (Edge.renumber renumbering)) := by
  have called := List.Perm.filterMap call? renumbered
  rw [List.filterMap_map] at called
  have each : call? ∘ renumber renumbering =
      fun activity => (call? activity).map (Edge.renumber renumbering) := by
    funext activity
    cases activity <;> rfl
  rw [each] at called
  rwa [calls, calls, List.map_filterMap]

theorem mem_calls_iff (edge : Edge) :
    edge.renumber renumbering ∈ calls second ↔ edge ∈ calls first := by
  rw [renumbered.calls_perm.mem_iff,
    List.mem_map_of_injective (Edge.renumber_injective renumbering)]

/-- What selects calls by number selects as many under the other numbers. -/
theorem countP_calls {selects others : Edge → Bool}
    (same : ∀ edge, others (edge.renumber renumbering) = selects edge) :
    (calls second).countP others = (calls first).countP selects := by
  rw [renumbered.calls_perm.countP_eq, List.countP_map]
  exact congrFun (congrArg List.countP (funext same)) (calls first)

theorem count_calls (edge : Edge) :
    (calls second).count (edge.renumber renumbering) = (calls first).count edge := by
  apply renumbered.countP_calls
  intro other
  rw [beq_eq_decide, beq_eq_decide, decide_eq_decide,
    (Edge.renumber_injective renumbering).eq_iff]

/-- Amounts that do not depend on numbers come to the same total. -/
theorem sum_eq {amount other : Activity → Nat}
    (same : ∀ activity, other (activity.renumber renumbering) = amount activity) :
    (second.map other).sum = (first.map amount).sum := by
  rw [(List.Perm.map other renumbered).sum_eq, List.map_map]
  exact congrArg (fun each => (first.map each).sum) (funext same)

theorem totalTimeOn_eq (edge : Edge) :
    totalTimeOn (edge.renumber renumbering) second = totalTimeOn edge first := by
  apply renumbered.sum_eq
  intro activity
  cases activity with
  | entered call => rfl
  | sampled inProgress time =>
      simp only [renumber, timeOn,
        List.mem_map_of_injective (Edge.renumber_injective renumbering)]

theorem totalTimeOutside_eq : totalTimeOutside second = totalTimeOutside first := by
  apply renumbered.sum_eq
  intro activity
  cases activity with
  | entered call => rfl
  | sampled inProgress time => cases inProgress <;> rfl

theorem totalTimeAmong_eq {selects others : Edge → Bool}
    (same : ∀ edge, others (edge.renumber renumbering) = selects edge) :
    totalTimeAmong others second = totalTimeAmong selects first := by
  apply renumbered.sum_eq
  intro activity
  cases activity with
  | entered call => rfl
  | sampled inProgress time =>
      have selected : (inProgress.map (Edge.renumber renumbering)).filter others =
          (inProgress.filter selects).map (Edge.renumber renumbering) := by
        rw [List.filter_map]
        exact congrArg (List.map _) (List.filter_congr fun edge _ => same edge)
      rw [renumber, timeAmong, timeAmong, selected,
        eraseDups_map fun _ _ _ _ => (Edge.renumber_injective renumbering ·), List.length_map]

end Renumbered

end Activity

/-- Two records of a block with the same numbers of calls and the same times. -/
structure BlockProfile.SameNumbers (first second : BlockProfile) : Prop where
  count_eq : first.count = second.count
  time_eq : first.time = second.time
  selfTime_eq : first.selfTime = second.selfTime

/-- Two profiles that show the same under other numbers. -/
structure Profile.SameUpTo (renumbering : Renumbering) (first second : Profile) : Prop where
  blocks : ∀ id, Option.Rel BlockProfile.SameNumbers (first.get? id)
    (second.get? (renumbering id))
  /-- The calls from one block to another. -/
  calls : ∀ caller callee,
    (second.get? (renumbering caller)).bind (·.callee? (renumbering callee)) =
      ((first.get? caller).bind (·.callee? callee)).map (Call.renumber renumbering)
  totalTime_eq : first.totalTime = second.totalTime

namespace Profile.Reflects

open Activity CallGraph

variable {first second : Profile} {firstLog secondLog : List Activity}
  {firstSize secondSize : Nat}

section Renumbered

variable {renumbering}
  (firstReflects : first.Reflects ((ofSize firstSize).updateAll (firstLog.flatMap requests)))
  (secondReflects : second.Reflects ((ofSize secondSize).updateAll (secondLog.flatMap requests)))
  (firstGrounded : Grounded firstLog) (secondGrounded : Grounded secondLog)
  (renumbered : Renumbered renumbering firstLog secondLog)

include firstReflects secondReflects firstGrounded secondGrounded renumbered

theorem totalTime_renumbered : first.totalTime = second.totalTime := by
  have leaving : totalTimeAmong (·.caller = .root) secondLog =
      totalTimeAmong (·.caller = .root) firstLog := by
    apply renumbered.totalTimeAmong_eq
    intro edge
    have same := Edge.caller_renumber_eq renumbering edge .root
    rwa [renumbering.root] at same
  rw [firstReflects.totalTime_of_log firstGrounded,
    secondReflects.totalTime_of_log secondGrounded, leaving, renumbered.totalTimeOutside_eq]

theorem numbers_renumbered {id : BlockId} {left right : BlockProfile}
    (leftFound : first.get? id = some left)
    (rightFound : second.get? (renumbering id) = some right) : left.SameNumbers right := by
  have totals : left.count = right.count ∧ left.time = right.time := by
    by_cases root : id = .root
    · -- The root has no callers to add up: it ran once, and its time is the total.
      subst root
      rw [renumbering.root] at rightFound
      have left_eq : first.root = left := Option.some.inj leftFound
      have right_eq : second.root = right := Option.some.inj rightFound
      rw [← left_eq, ← right_eq, firstReflects.root_count, secondReflects.root_count]
      exact ⟨rfl, totalTime_renumbered firstReflects secondReflects firstGrounded
        secondGrounded renumbered⟩
    · have notRoot : renumbering id ≠ .root := by
        rw [← renumbering.root]
        exact fun same => root (renumbering.eq_iff.mp same)
      have counted : (calls secondLog).countP (·.callee = renumbering id) =
          (calls firstLog).countP (·.callee = id) :=
        renumbered.countP_calls (Edge.callee_renumber_eq renumbering · id)
      have timed : totalTimeAmong (·.callee = renumbering id) secondLog =
          totalTimeAmong (·.callee = id) firstLog :=
        renumbered.totalTimeAmong_eq (Edge.callee_renumber_eq renumbering · id)
      rw [firstReflects.count_of_log firstGrounded leftFound root,
        secondReflects.count_of_log secondGrounded rightFound notRoot,
        firstReflects.time_of_log firstGrounded leftFound root,
        secondReflects.time_of_log secondGrounded rightFound notRoot, counted, timed]
      exact ⟨rfl, rfl⟩
  refine ⟨totals.1, totals.2, ?_⟩
  rw [firstReflects.selfTime_of_log firstGrounded leftFound,
    secondReflects.selfTime_of_log secondGrounded rightFound, totals.2,
    renumbered.totalTimeAmong_eq (Edge.leadsAway_renumber renumbering · id)]

/-- Profiles of logs that differ in numbers and order alone show the same. -/
theorem sameUpTo_renumbered
    (sameBlocks : ∀ id, (renumbering id).index < second.size ↔ id.index < first.size) :
    first.SameUpTo renumbering second := by
  constructor
  case blocks =>
    intro id
    cases leftFound : first.get? id with
    | none =>
        have beyond := (sameBlocks id).not.mpr
          (Nat.not_lt.mpr (List.getElem?_eq_none_iff.mp leftFound))
        have rightFound : second.get? (renumbering id) = none :=
          List.getElem?_eq_none_iff.mpr (Nat.not_lt.mp beyond)
        rw [rightFound]
        exact .none
    | some left =>
        have inside := (sameBlocks id).mpr (List.getElem?_eq_some_iff.mp leftFound).1
        have rightFound : second.get? (renumbering id) = some _ :=
          List.getElem?_eq_getElem inside
        rw [rightFound]
        exact .some (numbers_renumbered firstReflects secondReflects firstGrounded
          secondGrounded renumbered leftFound rightFound)
  case calls =>
    intro caller callee
    rw [firstReflects.callee_mirrors, secondReflects.callee_mirrors,
      call?_requests firstGrounded, call?_requests secondGrounded]
    have made := renumbered.mem_calls_iff ⟨caller, callee⟩
    have counted := renumbered.count_calls ⟨caller, callee⟩
    have timed := renumbered.totalTimeOn_eq ⟨caller, callee⟩
    simp only [Edge.renumber] at made counted timed
    simp only [made, counted, timed]
    split <;> rfl
  case totalTime_eq =>
    exact totalTime_renumbered firstReflects secondReflects firstGrounded secondGrounded renumbered

end Renumbered

end Profile.Reflects

end CallLedger

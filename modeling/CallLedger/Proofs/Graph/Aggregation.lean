import CallLedger.Profile
import CallLedger.Proofs.Graph.Callers

/-!
# Collapsing a graph is exact

One pass over the edges scatters every edge to the block it calls.  What arrives at a
block is its list of callers, so the pass is the same as asking the graph for the callers
of each block on its own; that the pass never reaches outside of the profile is what the
well-formedness of the graph is needed for.
-/

namespace CallLedger

namespace Count

theorem ofNat_value_add (count more : Count) (rest : Nat) :
    ofNat ((count + more).value + rest) = ofNat (count.value + (more.value + rest)) := by
  ext
  simp only [value_ofNat, value_add]
  omega

theorem foldl_add_eq (counts : List Count) (start : Count) :
    counts.foldl (· + ·) start = .ofNat (start.value + (counts.map value).sum) := by
  induction counts generalizing start with
  | nil => simp
  | cons count rest ih =>
      rw [List.foldl_cons, ih, ofNat_value_add, List.map_cons, List.sum_cons]

theorem sum_eq (counts : List Count) : sum counts = .ofNat (counts.map value).sum := by
  rw [sum, foldl_add_eq, value_zero, Nat.zero_add]

end Count

namespace BlockProfile

/-- Add the calls from several blocks, one after the other. -/
def addCallers (block : BlockProfile) (calls : List Call) : BlockProfile :=
  calls.foldl addCaller block

theorem addCallers_eq (block : BlockProfile) (calls : List Call) :
    block.addCallers calls =
      { block with
        count := .ofNat (block.count.value + (calls.map (·.count.value)).sum)
        time := .ofNat (block.time.value + (calls.map (·.time.value)).sum)
        callers := block.callers ++ calls } := by
  induction calls generalizing block with
  | nil => simp [addCallers]
  | cons call rest ih =>
      have step : block.addCallers (call :: rest) = (block.addCaller call).addCallers rest := rfl
      rw [step, ih]
      simp only [addCaller, List.map_cons, List.sum_cons, List.append_assoc,
        List.singleton_append, Count.ofNat_value_add]

end BlockProfile

namespace Profile

open CallGraph

/-- A call as the list of callers of the called block shows it. -/
def asCaller (entry : BlockId × Call) : Call :=
  { entry.2 with id := entry.1 }

/-- A pass over calls between blocks that exist brings to every block its callers. -/
theorem foldlM_addCall {blocks : Array BlockProfile} {entries : List (BlockId × Call)}
    (inside : ∀ entry ∈ entries, entry.2.id.index < blocks.size) :
    ∃ result, entries.foldlM addCall blocks = .ok result ∧ result.size = blocks.size ∧
      ∀ index, result[index]? = blocks[index]?.map
        (BlockProfile.addCallers · ((entries.filter (·.2.id == ⟨index⟩)).map asCaller)) := by
  induction entries generalizing blocks with
  | nil =>
      refine ⟨blocks, rfl, rfl, fun index => ?_⟩
      cases blocks[index]? <;> rfl
  | cons entry rest ih =>
      let noted := blocks.modify entry.2.id.index (·.addCaller (asCaller entry))
      have first : addCall blocks entry = .ok noted := by
        rw [addCall, if_pos (inside entry (by simp))]
        rfl
      have restInside : ∀ other ∈ rest, other.2.id.index < noted.size := by
        intro other member
        simpa [noted] using inside other (by simp [member])
      rcases ih restInside with ⟨result, run, size_eq, found⟩
      refine ⟨result, ?_, ?_, fun index => ?_⟩
      · rw [List.foldlM_cons, first]
        exact run
      · simpa [noted] using size_eq
      · -- The first call arrives at one block; the rest of the pass adds after it.
        rw [found, Array.getElem?_modify]
        by_cases called : entry.2.id.index = index
        · subst called
          cases blocks[entry.2.id.index]? <;> simp [BlockProfile.addCallers]
        · have other : (entry.2.id == ⟨index⟩) = false := by
            simpa using fun equal : entry.2.id = ⟨index⟩ => called (congrArg BlockId.index equal)
          simp [called, other]

/-- The statistics of a block other than the root, as the graph has them. -/
def calledBlock (graph : CallGraph) (id : BlockId) : BlockProfile where
  id := id
  count := .ofNat ((graph.callersOf id).map (·.2.count.value)).sum
  time := .ofNat ((graph.callersOf id).map (·.2.time.value)).sum
  callers := (graph.callersOf id).map asCaller
  callees := graph.row id

theorem caller?_calledBlock {graph : CallGraph} (wf : graph.WF) (caller callee : BlockId) :
    (calledBlock graph callee).caller? caller =
      (graph.call? ⟨caller, callee⟩).map fun call => asCaller (caller, call) := by
  have search : (calledBlock graph callee).caller? caller =
      ((graph.callersOf callee).find? (·.1 == caller)).map asCaller := List.find?_map
  rw [search, find?_callersOf wf, Option.map_map]
  rfl

/-- The profile of a graph, block by block. -/
theorem compute_eq {graph : CallGraph} {registry : Registry} (wf : graph.WF)
    (covered : registry.size ≤ graph.size) :
    ∃ profile, compute graph registry = .ok profile ∧ profile.root = rootOf graph ∧
      profile.size = graph.size ∧
      ∀ id, id ≠ .root → profile.get? id =
        if id.index < graph.size then some (calledBlock graph id) else none := by
  have size_uncalled : (uncalled graph).size = graph.size := by
    simp [uncalled, CallGraph.size]
  have inside : ∀ entry ∈ graph.calls, entry.2.id.index < (uncalled graph).size := by
    intro entry member
    rw [calls_eq, List.mem_flatMap] at member
    rcases member with ⟨index, _, listed⟩
    rcases List.mem_map.mp listed with ⟨call, inRow, rfl⟩
    exact size_uncalled ▸ wf.closed _ call inRow
  rcases foldlM_addCall inside with ⟨result, run, size_eq, found⟩
  refine ⟨⟨rootOf graph, result.toList.tail⟩, ?_, rfl, ?_, ?_⟩
  · rw [compute, if_pos covered, ofGraph, run]
    rfl
  · have positive := wf.nonempty
    simp only [Profile.size, blocks, List.length_cons, List.length_tail, Array.length_toList]
    omega
  · intro id notRoot
    rcases id with ⟨index⟩
    cases index with
    | zero => exact absurd rfl notRoot
    | succ index =>
        have block : (uncalled graph)[index + 1]? =
            if index + 1 < graph.size then
              some ⟨⟨⟨index + 1⟩, 0, 0⟩, [], graph.row ⟨index + 1⟩⟩
            else none := by
          rw [uncalled, Array.getElem?_mapIdx]
          by_cases inside : index + 1 < graph.rows.size
          · simp [inside, CallGraph.size, row]
          · simp [inside, CallGraph.size]
        simp only [get?, blocks, List.getElem?_cons_succ, List.getElem?_tail,
          Array.getElem?_toList, found, block]
        split
        · simp [BlockProfile.addCallers_eq, calledBlock, callersOf, Function.comp_def, asCaller]
        · rfl

/-- A profile says of every block what the graph says.  The root is set apart: it has no
callers, ran once, and its time is the time of its calls and the time outside of calls. -/
structure Reflects (profile : Profile) (graph : CallGraph) : Prop where
  size_eq : profile.size = graph.size
  id_eq : ∀ id block, profile.get? id = some block → block.id = id
  callees_eq : ∀ id block, profile.get? id = some block → block.callees = graph.row id
  callers_eq : ∀ id block, profile.get? id = some block → id ≠ .root →
    block.callers = (graph.callersOf id).map asCaller
  callers_ascend : ∀ id block, profile.get? id = some block →
    block.callers.Pairwise (·.id.index < ·.id.index)
  count_eq : ∀ id block, profile.get? id = some block → id ≠ .root →
    block.count = .ofNat (block.callers.map (·.count.value)).sum
  time_eq : ∀ id block, profile.get? id = some block → id ≠ .root →
    block.time = .ofNat (block.callers.map (·.time.value)).sum
  caller_mirrors : ∀ caller callee, callee ≠ .root →
    (profile.get? callee).bind (·.caller? caller) =
      (graph.call? ⟨caller, callee⟩).map fun call => asCaller (caller, call)
  callee_mirrors : ∀ caller callee,
    (profile.get? caller).bind (·.callee? callee) = graph.call? ⟨caller, callee⟩
  root_callers : profile.root.callers = []
  root_count : profile.root.count = 1
  root_time : profile.root.time =
    .ofNat (graph.unattributed.value + ((graph.row .root).map (·.time.value)).sum)

/-- Collapsing a well-formed graph succeeds, and the profile reflects the graph. -/
theorem reflects_of_wf {graph : CallGraph} {registry : Registry} (wf : graph.WF)
    (covered : registry.size ≤ graph.size) :
    ∃ profile, compute graph registry = .ok profile ∧ profile.Reflects graph := by
  rcases compute_eq wf covered with ⟨profile, computed, root_eq, size_eq, called⟩
  have root_of_get : ∀ block, profile.get? .root = some block → block = rootOf graph :=
    fun block found => root_eq ▸ (Option.some.inj found).symm
  have called_of_get : ∀ id block, profile.get? id = some block → id ≠ .root →
      block = calledBlock graph id := by
    intro id block found notRoot
    rw [called id notRoot] at found
    split at found
    · exact (Option.some.inj found).symm
    · cases found
  refine ⟨profile, computed, ?_⟩
  constructor
  case size_eq => exact size_eq
  case id_eq =>
    intro id block found
    by_cases root : id = .root
    · subst root
      rw [root_of_get block found]
      rfl
    · rw [called_of_get id block found root]
      rfl
  case callees_eq =>
    intro id block found
    by_cases root : id = .root
    · subst root
      rw [root_of_get block found]
      rfl
    · rw [called_of_get id block found root]
      rfl
  case callers_eq =>
    intro id block found notRoot
    rw [called_of_get id block found notRoot]
    rfl
  case callers_ascend =>
    intro id block found
    by_cases root : id = .root
    · subst root
      rw [root_of_get block found]
      exact List.Pairwise.nil
    · rw [called_of_get id block found root]
      exact List.pairwise_map.mpr (callersOf_ascend wf id)
  case count_eq =>
    intro id block found notRoot
    rw [called_of_get id block found notRoot]
    simp [calledBlock, asCaller, Function.comp_def]
  case time_eq =>
    intro id block found notRoot
    rw [called_of_get id block found notRoot]
    simp [calledBlock, asCaller, Function.comp_def]
  case caller_mirrors =>
    intro caller callee notRoot
    rw [called callee notRoot]
    split
    next => exact caller?_calledBlock wf caller callee
    next outside =>
      rw [call?_eq_none wf fun inside => outside inside.2]
      rfl
  case callee_mirrors =>
    intro caller callee
    by_cases root : caller = .root
    · subst root
      rw [show profile.get? .root = some (rootOf graph) from congrArg some root_eq]
      rfl
    · rw [called caller root]
      split
      next => rfl
      next outside =>
        rw [call?_eq_none wf fun inside => outside inside.1]
        rfl
  case root_callers => rw [root_eq]; rfl
  case root_count => rw [root_eq]; rfl
  case root_time =>
    rw [root_eq, rootOf, Count.foldl_add_eq, List.map_map]
    rfl

/-- **Aggregation is exact.**  Whatever requests a graph was built by, it collapses into a
profile that reflects it, unless the registry has blocks that the graph has no row for. -/
theorem compute_reflects_updates (size : Nat) (updates : List GraphUpdate)
    (registry : Registry)
    (covered : registry.size ≤ ((ofSize size).updateAll updates).size) :
    ∃ profile, compute ((ofSize size).updateAll updates) registry = .ok profile ∧
      profile.Reflects ((ofSize size).updateAll updates) :=
  reflects_of_wf (wf_updateAll size updates) covered

/-- A call to itself, a call to the root, a record without calls and a full count. -/
def tangle : List GraphUpdate :=
  [.record ⟨.root, ⟨1⟩⟩ (.ofNat Count.limit) 3, .record ⟨⟨1⟩, ⟨1⟩⟩ 2 1,
    .record ⟨⟨1⟩, .root⟩ 1 4, .record ⟨⟨2⟩, ⟨1⟩⟩ 0 0, .unattributed 5]

theorem compute_reflects_tangle :
    ∃ profile, compute ((ofSize 2).updateAll tangle) ⟨[⟨"loop", .unknown⟩]⟩ = .ok profile ∧
      profile.Reflects ((ofSize 2).updateAll tangle) :=
  compute_reflects_updates 2 tangle ⟨[⟨"loop", .unknown⟩]⟩ (by decide)

end Profile

end CallLedger

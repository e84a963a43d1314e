import CallLedger.Profile

/-!
# Blocks of a profile by identifier

Collapsing a graph gives every row a record with the identifier of the row, and no call that is
noted changes it.  So whatever graph a profile comes from, the place of a block in the profile is
its identifier.
-/

namespace CallLedger.Profile

/-- A profile whose blocks stand where their identifiers say. -/
def Numbered (profile : Profile) : Prop :=
  ∀ id block, profile.get? id = some block → block.id = id

/-- The same of the records that a pass over the calls adds to. -/
def InPlace (blocks : Array BlockProfile) : Prop :=
  ∀ (index : Nat) (block : BlockProfile), blocks[index]? = some block → block.id = ⟨index⟩

theorem inPlace_uncalled (graph : CallGraph) : InPlace (uncalled graph) := by
  intro index block found
  rw [uncalled, Array.getElem?_mapIdx] at found
  obtain ⟨row, _, rfl⟩ := Option.map_eq_some_iff.mp found
  rfl

theorem InPlace.addCall {blocks noted : Array BlockProfile} {entry : BlockId × Call}
    (inPlace : InPlace blocks) (added : addCall blocks entry = .ok noted) : InPlace noted := by
  rw [Profile.addCall] at added
  split at added
  next =>
    cases added
    intro index block found
    rw [Array.getElem?_modify] at found
    split at found
    next =>
      obtain ⟨before, listed, rfl⟩ := Option.map_eq_some_iff.mp found
      exact inPlace index before listed
    next => exact inPlace index block found
  next => cases added

theorem InPlace.foldlM_addCall {entries : List (BlockId × Call)}
    {blocks result : Array BlockProfile} (inPlace : InPlace blocks)
    (run : entries.foldlM Profile.addCall blocks = .ok result) : InPlace result := by
  induction entries generalizing blocks with
  | nil =>
      cases run
      exact inPlace
  | cons entry rest ih =>
      rw [List.foldlM_cons] at run
      cases added : Profile.addCall blocks entry with
      | error violation =>
          rw [added] at run
          cases run
      | ok noted =>
          rw [added] at run
          exact ih (inPlace.addCall added) run

theorem numbered_of_ofGraph {graph : CallGraph} {profile : Profile}
    (collapsed : ofGraph graph = .ok profile) : profile.Numbered := by
  rw [ofGraph] at collapsed
  cases run : graph.calls.foldlM addCall (uncalled graph) with
  | error violation =>
      rw [run] at collapsed
      cases collapsed
  | ok blocks =>
      rw [run] at collapsed
      cases collapsed
      rintro ⟨index⟩ block found
      cases index with
      | zero =>
          cases found
          rfl
      | succ index =>
          rw [get?, Profile.blocks, List.getElem?_cons_succ, List.getElem?_tail,
            Array.getElem?_toList] at found
          exact (inPlace_uncalled graph).foldlM_addCall run (index + 1) block found

theorem numbered_of_compute {graph : CallGraph} {registry : Registry} {profile : Profile}
    (computed : compute graph registry = .ok profile) : profile.Numbered := by
  rw [compute] at computed
  split at computed
  next => exact numbered_of_ofGraph computed
  next => cases computed

namespace Numbered

variable {profile : Profile} (numbered : profile.Numbered)

include numbered

/-- A profile lists its blocks by identifier. -/
theorem ids_eq : profile.blocks.map (·.id) = (List.range profile.size).map BlockId.mk := by
  apply List.ext_getElem?
  intro index
  rw [List.getElem?_map, List.getElem?_map]
  cases found : profile.blocks[index]? with
  | none =>
      have outside : profile.size ≤ index := List.getElem?_eq_none_iff.mp found
      rw [List.getElem?_eq_none (by simpa using outside)]
      rfl
  | some block =>
      have inside : index < profile.size := (List.getElem?_eq_some_iff.mp found).1
      have named : block.id = ⟨index⟩ := numbered ⟨index⟩ block found
      rw [List.getElem?_range inside, Option.map_some, Option.map_some, named]

theorem nodup_ids : (profile.blocks.map (·.id)).Nodup := by
  rw [numbered.ids_eq]
  refine List.Pairwise.map _ ?_ List.nodup_range
  intro left right different same
  exact different (congrArg BlockId.index same)

theorem mem_blocks {block : BlockProfile} :
    block ∈ profile.blocks ↔ profile.get? block.id = some block := by
  rw [List.mem_iff_getElem?]
  constructor
  · rintro ⟨index, found⟩
    have named : block.id = ⟨index⟩ := numbered ⟨index⟩ block found
    rw [named]
    exact found
  · intro found
    exact ⟨block.id.index, found⟩

end Numbered

end CallLedger.Profile

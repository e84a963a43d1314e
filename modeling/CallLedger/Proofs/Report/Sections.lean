import CallLedger.Proofs.Ranking.Order
import CallLedger.Proofs.Report.LineFeeds

/-!
# Reports account for all blocks

The flat profile goes through the ranking, the call graph through the blocks of the ranking that
ran, the list of uncovered blocks through those that did not, and the locations through the
registry.  Nothing relates the blocks of the profile to those of the registry, which only supplies
names: a block that is not registered is shown under a name of its own.
-/

namespace CallLedger

open Report

theorem Count.eq_zero_iff {count : Count} : count = 0 ↔ ¬ 0 < count := by
  rw [Count.lt_iff, Count.value_zero, Nat.not_lt, Nat.le_zero]
  exact ⟨congrArg Count.value, fun zero => Count.ext zero⟩

namespace Registry

theorem ids_entries (registry : Registry) :
    registry.entries.map (·.1) = (List.range registry.size).map BlockId.mk := by
  rw [entries, List.map_map, size, List.range_eq_range', ← List.zipIdx_map_snd 0 registry.blocks,
    List.map_map]
  rfl

theorem get?_of_mem_entries {registry : Registry} {entry : BlockId × Block}
    (member : entry ∈ registry.entries) : registry.get? entry.1 = some entry.2 := by
  obtain ⟨⟨block, index⟩, indexed, rfl⟩ := List.mem_map.mp member
  exact List.mem_zipIdx_iff_getElem?.mp indexed

end Registry

namespace ReportSections

/-- The blocks that the sections of a report are about: `ranked` are those of the flat profile,
`idle` those that are listed as uncovered, and `located` those whose locations are shown. -/
structure Accounts (sections : ReportSections) (profile : Profile) (registry : Registry)
    (ranked idle : List BlockProfile) (located : List (BlockId × Block)) : Prop where
  /-- The flat profile has a line for each block, by descending time and then by identifier. -/
  ranked_perm : ranked.Perm profile.blocks
  outranks : ranked.Pairwise BlockProfile.Outranks
  flat_eq : sections.flat = ranked.map (flatLine registry profile.totalTime)
  flat_ids : sections.flat.map idOf = ranked.map (·.id)
  /-- The call graph has an entry for each block that ran, with one marked line, in this order. -/
  marked_eq : sections.entries.map (·.filter isMarked) =
    (ranked.filter (0 < ·.count)).map ([callLine registry profile.totalTime true ·.toCall])
  marked_ids : sections.entries.map (fun entry => (entry.filter isMarked).map idOf) =
    (ranked.filter (0 < ·.count)).map ([·.id])
  /-- The other blocks are uncovered, by identifier. -/
  mem_idle_iff : ∀ block, block ∈ idle ↔ block ∈ profile.blocks ∧ block.count = 0
  ascending : idle.Pairwise (·.id.index < ·.id.index)
  uncovered_eq : sections.uncovered = idle.map (registry.label ·.id)
  uncovered_ids : sections.uncovered.map idOf = idle.map (·.id)
  /-- Each block of the profile either has an entry in the call graph or is uncovered. -/
  partition : (ranked.filter (0 < ·.count) ++ idle).Perm profile.blocks
  ids_eq : profile.blocks.map (·.id) = (List.range profile.size).map BlockId.mk
  /-- The locations are those of all registered blocks, by identifier. -/
  located_ids : located.map (·.1) = (List.range registry.size).map BlockId.mk
  located_get? : ∀ entry ∈ located, registry.get? entry.1 = some entry.2
  locations_eq : sections.locations = located.map fun (id, block) =>
    registry.label id ++ ": " ++ block.location.display

end ReportSections

namespace Profile

variable {profile : Profile}

/-- Uncovered blocks are listed by identifier because a profile lists its blocks so. -/
theorem Numbered.ascending_blocks (numbered : profile.Numbered) :
    profile.blocks.Pairwise (·.id.index < ·.id.index) := by
  have ascending : (profile.blocks.map (·.id)).Pairwise (·.index < ·.index) := by
    rw [numbered.ids_eq]
    exact List.pairwise_lt_range.map _ fun _ _ less => less
  rwa [List.pairwise_map] at ascending

/-- A block either ran or did not. -/
theorem ran_append_idle_perm (profile : Profile) :
    (profile.byTime.filter (0 < ·.count) ++ profile.blocks.filter (·.count = 0)).Perm
      profile.blocks := by
  have idle : profile.blocks.filter (·.count = 0) =
      profile.blocks.filter fun block => !decide (0 < block.count) := by
    refine List.filter_congr fun block _ => ?_
    rw [← decide_not, decide_eq_decide, Count.eq_zero_iff]
  rw [idle]
  exact ((profile.byTime_perm.filter _).append_right _).trans (List.filter_append_perm _ _)

theorem Numbered.accounts (numbered : profile.Numbered) (registry : Registry)
    (limit : Option Nat) :
    ((Report.ofProfile profile registry limit).sections registry).Accounts profile registry
      profile.byTime (profile.blocks.filter (·.count = 0)) registry.entries where
  ranked_perm := profile.byTime_perm
  outranks := numbered.outranks_byTime
  flat_eq := rfl
  flat_ids := by simp [Report.sections, Report.ofProfile]
  marked_eq := by
    simp [Report.sections, Report.ofProfile, filter_isMarked_entryBody, ReportEntry.ofBlock]
  marked_ids := by
    simp [Report.sections, Report.ofProfile, filter_isMarked_entryBody, ReportEntry.ofBlock]
  mem_idle_iff := by simp
  ascending := numbered.ascending_blocks.filter _
  uncovered_eq := by simp [Report.sections, Report.ofProfile]
  uncovered_ids := by simp [Report.sections, Report.ofProfile]
  partition := profile.ran_append_idle_perm
  ids_eq := numbered.ids_eq
  located_ids := registry.ids_entries
  located_get? := fun _ => Registry.get?_of_mem_entries
  locations_eq := rfl

end Profile

/-- **Reports account for all blocks.**  Whatever registry supplies the names and however many
edges are shown, the lines of a report fall into sections and entries that are about all blocks of
the profile and all blocks of the registry, each once and in order. -/
theorem report_accounts {graph : CallGraph} {covered : Registry} {profile : Profile}
    (computed : Profile.compute graph covered = .ok profile) (registry : Registry)
    (limit : Option Nat) :
    ∃ sections : ReportSections,
      (Report.ofProfile profile registry limit).render registry = sections.text ∧
      (registry.Unbroken →
        sections.text.toList.splitOn '\n' = sections.lines.map String.toList ++ [[]]) ∧
      sections.Divided ∧
      ∃ ranked idle located, sections.Accounts profile registry ranked idle located := by
  refine ⟨(Report.ofProfile profile registry limit).sections registry, render_eq .., ?_,
    divided_sections .., _, _, _, (Profile.numbered_of_compute computed).accounts registry limit⟩
  intro unbroken
  rw [← render_eq]
  refine splitOn_render unbroken fun entry member => ?_
  exact (unbroken entry.2 (List.mem_of_getElem? (Registry.get?_of_mem_entries member))).2

/-- A graph with a block that is called, one that has time without calls, and one that has neither,
for a registry with the root alone. -/
def unnamedGraph : CallGraph :=
  ((CallGraph.ofSize 4).record ⟨.root, ⟨2⟩⟩ 3 70).record ⟨⟨2⟩, ⟨1⟩⟩ 0 20

theorem report_accounts_unnamedGraph :
    ∃ profile, Profile.compute unnamedGraph .empty = .ok profile ∧ Registry.empty.Unbroken ∧
      ∃ sections : ReportSections,
        (Report.ofProfile profile .empty (some 1)).render .empty = sections.text ∧
        (Registry.empty.Unbroken →
          sections.text.toList.splitOn '\n' = sections.lines.map String.toList ++ [[]]) ∧
        sections.Divided ∧
        ∃ ranked idle located, sections.Accounts profile .empty ranked idle located := by
  obtain ⟨profile, computed⟩ : ∃ profile, Profile.compute unnamedGraph .empty = .ok profile :=
    ⟨_, rfl⟩
  refine ⟨profile, computed, ?_, report_accounts computed .empty (some 1)⟩
  simp [Registry.Unbroken, Registry.empty, Registry.blocks, Block.root, Location.nowhere]

end CallLedger

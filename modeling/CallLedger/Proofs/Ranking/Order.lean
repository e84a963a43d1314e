import CallLedger.Proofs.Graph.Numbering
import CallLedger.Ranking
import Mathlib.Data.List.Nodup

/-!
# The ranking is a strict order

Blocks of a profile have different identifiers, so no two of them share a place in the ranking:
sorting arranges them in one way only.
-/

namespace CallLedger

namespace BlockProfile

/-- A block has a longer time than another, or as long a time and the smaller identifier. -/
def Outranks (left right : BlockProfile) : Prop :=
  right.time < left.time ∨ left.time = right.time ∧ left.id.index < right.id.index

variable {left right : BlockProfile}

theorem Outranks.irrefl (block : BlockProfile) : ¬ block.Outranks block := by
  rintro (longer | ⟨_, smaller⟩)
  · exact Nat.lt_irrefl _ longer
  · exact Nat.lt_irrefl _ smaller

theorem rankedBefore_iff :
    left.rankedBefore right = true ↔
      right.time.value < left.time.value ∨
        left.time.value = right.time.value ∧ left.id.index ≤ right.id.index := by
  rw [rankedBefore]
  split
  next same => simp [same]
  next different =>
    have values : left.time.value ≠ right.time.value := fun same => different (Count.ext same)
    simp [Count.lt_iff, values]

theorem time_le_of_rankedBefore (ranked : left.rankedBefore right = true) :
    right.time ≤ left.time := by
  rw [Count.le_iff]
  rcases rankedBefore_iff.mp ranked with longer | ⟨same, _⟩
  · exact Nat.le_of_lt longer
  · exact Nat.le_of_eq same.symm

theorem outranks_of_rankedBefore (ranked : left.rankedBefore right = true)
    (different : left.id ≠ right.id) : left.Outranks right := by
  rcases rankedBefore_iff.mp ranked with longer | ⟨same, le⟩
  · exact .inl longer
  · exact .inr ⟨Count.ext same,
      Nat.lt_of_le_of_ne le fun equal => different (congrArg BlockId.mk equal)⟩

end BlockProfile

namespace Profile

variable {profile : Profile}

theorem byTime_perm (profile : Profile) : profile.byTime.Perm profile.blocks :=
  List.mergeSort_perm ..

theorem mem_byTime {block : BlockProfile} : block ∈ profile.byTime ↔ block ∈ profile.blocks :=
  profile.byTime_perm.mem_iff

theorem pairwise_byTime (profile : Profile) :
    profile.byTime.Pairwise fun left right => left.rankedBefore right = true := by
  refine List.pairwise_mergeSort ?_ ?_ profile.blocks
  · intro first second third before after
    rw [BlockProfile.rankedBefore_iff] at before after ⊢
    omega
  · intro left right
    rw [Bool.or_eq_true, BlockProfile.rankedBefore_iff, BlockProfile.rankedBefore_iff]
    omega

/-- No two blocks have the same place in the ranking. -/
theorem Numbered.outranks_byTime (numbered : profile.Numbered) :
    profile.byTime.Pairwise BlockProfile.Outranks := by
  have distinct : (profile.byTime.map (·.id)).Nodup :=
    (profile.byTime_perm.map _).nodup_iff.mpr numbered.nodup_ids
  refine (profile.pairwise_byTime.and (List.pairwise_map.mp distinct)).imp ?_
  rintro left right ⟨ranked, different⟩
  exact BlockProfile.outranks_of_rankedBefore ranked different

end Profile

end CallLedger

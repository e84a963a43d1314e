import CallLedger.Proofs.Binary64.Percentage
import CallLedger.Proofs.Ranking.Order
import Mathlib.Data.List.Infix

/-!
# Listings are prefixes of the ranking

A listing filters the ranking by a threshold and cuts it off.  The share of a block in the total
never rises along the ranking, so the blocks that reach the threshold are the leading ones of
those that ran: a lower threshold and a higher limit only add blocks at the end.
-/

namespace CallLedger

/-- If a predicate that holds of an element holds of all elements before it, the elements it
holds of come first. -/
theorem filter_isPrefix {α : Type} {keep : α → Bool} {elements : List α}
    (falls : elements.Pairwise fun left right => keep right = true → keep left = true) :
    elements.filter keep <+: elements := by
  induction elements with
  | nil => exact List.prefix_refl []
  | cons head tail ih =>
      obtain ⟨first, rest⟩ := List.pairwise_cons.mp falls
      by_cases kept : keep head = true
      · rw [List.filter_cons_of_pos kept]
        exact (List.prefix_cons_inj head).mpr (ih rest)
      · have none_kept : tail.filter keep = [] := by
          rw [List.filter_eq_nil_iff]
          intro element member holds
          exact kept (first element member holds)
        rw [List.filter_cons_of_neg kept, none_kept]
        exact List.nil_prefix

namespace Profile

/-- The blocks that a listing may show, in ranking order: blocks other than the root that ran and
whose share of the total reaches the threshold. -/
structure Candidates (profile : Profile) (threshold : Binary64) (blocks : List BlockProfile) :
    Prop where
  outranks : blocks.Pairwise BlockProfile.Outranks
  mem_iff : ∀ block, block ∈ blocks ↔ block ∈ profile.blocks ∧ block.id ≠ .root ∧
    0 < block.count ∧ threshold.le (percent block.time profile.totalTime) = true

variable {profile : Profile} {threshold : Binary64}

theorem isListed_iff {block : BlockProfile} :
    profile.isListed threshold block = true ↔ block.id ≠ .root ∧ 0 < block.count ∧
      threshold.le (percent block.time profile.totalTime) = true := by
  simp [isListed, BlockId.isRoot, and_assoc]

theorem Numbered.candidates (numbered : profile.Numbered) (threshold : Binary64) :
    profile.Candidates threshold (profile.byTime.filter (profile.isListed threshold)) where
  outranks := numbered.outranks_byTime.filter _
  mem_iff := by
    intro block
    rw [List.mem_filter, mem_byTime, isListed_iff]

/-- Of two blocks that ran the higher ranked one reaches the threshold if the other does. -/
theorem isListed_of_rankedBefore {weaker : Binary64} {left right : BlockProfile}
    (ranked : left.rankedBefore right = true) (leftRan : profile.isListed weaker left = true)
    (listed : profile.isListed threshold right = true) :
    profile.isListed threshold left = true := by
  obtain ⟨notRoot, ran, _⟩ := isListed_iff.mp leftRan
  obtain ⟨_, _, reached⟩ := isListed_iff.mp listed
  have share_le := percent_mono profile.totalTime (BlockProfile.time_le_of_rankedBefore ranked)
  exact isListed_iff.mpr ⟨notRoot, ran, Binary64.le_trans reached share_le⟩

theorem isListed_of_le {weaker : Binary64} {block : BlockProfile}
    (le : weaker.le threshold = true) (listed : profile.isListed threshold block = true) :
    profile.isListed weaker block = true := by
  obtain ⟨notRoot, ran, reached⟩ := isListed_iff.mp listed
  exact isListed_iff.mpr ⟨notRoot, ran, Binary64.le_trans le reached⟩

/-- A higher threshold keeps the leading candidates. -/
theorem filter_isListed_isPrefix {weaker : Binary64} (le : weaker.le threshold = true) :
    profile.byTime.filter (profile.isListed threshold) <+:
      profile.byTime.filter (profile.isListed weaker) := by
  have nested : profile.byTime.filter (profile.isListed threshold) =
      (profile.byTime.filter (profile.isListed weaker)).filter (profile.isListed threshold) := by
    rw [List.filter_filter]
    refine List.filter_congr fun block _ => ?_
    rw [Bool.eq_iff_iff, Bool.and_eq_true]
    exact ⟨fun listed => ⟨listed, isListed_of_le le listed⟩, And.left⟩
  rw [nested]
  refine filter_isPrefix (List.Pairwise.imp_of_mem ?_ (profile.pairwise_byTime.filter _))
  intro left right member _ ranked listed
  exact isListed_of_rankedBefore ranked (List.mem_filter.mp member).2 listed

theorem top_isPrefix {limit more : Nat} {weaker : Binary64} (le : limit ≤ more)
    (weaker_le : weaker.le threshold = true) :
    profile.top limit threshold <+: profile.top more weaker := by
  rw [top, top]
  exact ((filter_isListed_isPrefix weaker_le).take limit).trans
    (List.take_isPrefix_take.mpr (.inl le))

theorem top_nan (profile : Profile) (limit : Nat) (negative : Bool) :
    profile.top limit (.nan negative) = [] := by
  have none_listed : profile.byTime.filter (profile.isListed (.nan negative)) = [] := by
    rw [List.filter_eq_nil_iff]
    intro block _ listed
    exact Bool.false_ne_true (isListed_iff.mp listed).2.2
  rw [top, none_listed, List.take_nil]

/-- A listing with room for all blocks shows all candidates. -/
theorem mem_top_of_size_le {limit : Nat} (room : profile.size ≤ limit) {block : BlockProfile} :
    block ∈ profile.top limit threshold ↔
      block ∈ profile.blocks ∧ profile.isListed threshold block = true := by
  have fits : (profile.byTime.filter (profile.isListed threshold)).length ≤ limit := by
    have ranked : profile.byTime.length = profile.size := profile.byTime_perm.length_eq
    have := List.length_filter_le (profile.isListed threshold) profile.byTime
    omega
  rw [top, List.take_of_length_le fits, List.mem_filter, mem_byTime]

/-- What a listing shows of a profile: the leading candidates up to the limit, and no block
twice. -/
structure Selects (profile : Profile) (limit : Nat) (threshold : Binary64)
    (listed : List BlockProfile) : Prop where
  nodup : listed.Nodup
  outranks : listed.Pairwise BlockProfile.Outranks
  leading : ∃ blocks, profile.Candidates threshold blocks ∧ listed = blocks.take limit

theorem Numbered.selects (numbered : profile.Numbered) (limit : Nat) (threshold : Binary64) :
    profile.Selects limit threshold (profile.top limit threshold) := by
  have outranks : (profile.top limit threshold).Pairwise BlockProfile.Outranks :=
    ((numbered.candidates threshold).outranks).sublist (List.take_sublist ..)
  refine ⟨outranks.imp ?_, outranks, _, numbered.candidates threshold, rfl⟩
  rintro block _ outranks rfl
  exact BlockProfile.Outranks.irrefl block outranks

/-- **Listings are prefixes of the ranking.**  A listing of a profile shows the first `limit`
candidates in ranking order, none of them twice, and nothing if the threshold is not a number.
With a higher limit and a lower threshold it shows the same blocks and then maybe others. -/
theorem top_selects {graph : CallGraph} {registry : Registry}
    (computed : compute graph registry = .ok profile) (limit : Nat) (threshold : Binary64) :
    profile.Selects limit threshold (profile.top limit threshold) ∧
      (∀ negative, profile.top limit (.nan negative) = []) ∧
      ∀ more weaker, limit ≤ more → weaker.le threshold = true →
        profile.top limit threshold <+: profile.top more weaker :=
  ⟨(numbered_of_compute computed).selects limit threshold, profile.top_nan limit,
    fun _ _ le weaker_le => top_isPrefix le weaker_le⟩

/-- A graph with two blocks of equal time, a block without calls that has time, and a block whose
time is beyond the total. -/
def contestedGraph : CallGraph :=
  ((((((CallGraph.ofSize 6).record ⟨.root, ⟨2⟩⟩ 1 40).record ⟨.root, ⟨1⟩⟩ 2 40).record
    ⟨.root, ⟨3⟩⟩ 0 50).record ⟨⟨1⟩, ⟨4⟩⟩ 1 900).record ⟨⟨4⟩, ⟨5⟩⟩ 1 1)

theorem top_selects_contestedGraph :
    ∃ profile, compute contestedGraph .empty = .ok profile ∧
      profile.Selects 3 (.ofNat 25) (profile.top 3 (.ofNat 25)) ∧
      (∀ negative, profile.top 3 (.nan negative) = []) ∧
      ∀ more weaker, 3 ≤ more → weaker.le (.ofNat 25) = true →
        profile.top 3 (.ofNat 25) <+: profile.top more weaker := by
  obtain ⟨profile, computed⟩ : ∃ profile, compute contestedGraph .empty = .ok profile := ⟨_, rfl⟩
  exact ⟨profile, computed, top_selects computed 3 (.ofNat 25)⟩

end Profile

end CallLedger

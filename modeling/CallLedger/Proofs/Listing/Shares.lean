import CallLedger.Listing
import CallLedger.Proofs.Binary64.Percentage
import CallLedger.Proofs.Folded.Recount
import CallLedger.Report

/-!
# Shares of the total in different formats

Tables, records and reports show the share of a block in the total time rounded once, from its
exact binary value and with ties to even.  Documents show a number that was scaled up, rounded
with ties away from zero and scaled down.  The two show the same hundredths except where scaling
up ends half way between two of them, and for shares so large that scaling up and down does not
lead back to the share itself.
-/

namespace CallLedger

open Binary64

/-- The share of the total that a document shows for a block, written with two decimal
places. -/
def ListedBlock.documentShare? (total : Count) (entry : ListedBlock) : Option String :=
  match entry.document total with
  | .object members =>
      match members.lookup "time_pct" with
      | some (.number share) => some (share.fixed 2)
      | _ => none
  | _ => none

/-- All formats show the same share of the total for a block. -/
def ListedBlock.SharesAgree (total : Count) (entry : ListedBlock) : Prop :=
  ∃ share, entry.documentShare? total = some share ∧
    (Listing.record total entry)[3]? = some (.bare share) ∧
    (Listing.row total entry)[3]? = some (share ++ "%") ∧
    Report.share total entry.time = Report.alignRight 6 share ++ "%"

namespace ListedBlock

theorem documentShare?_eq (total : Count) (entry : ListedBlock) :
    entry.documentShare? total =
      some ((roundToHundredths (percent entry.time total)).fixed 2) := by
  simp [documentShare?, document, List.lookup_cons]

theorem sharesAgree_iff_text {total : Count} {entry : ListedBlock} :
    entry.SharesAgree total ↔
      (roundToHundredths (percent entry.time total)).fixed 2 = percentText entry.time total := by
  rw [SharesAgree, documentShare?_eq]
  constructor
  · rintro ⟨share, shown, recorded, _, _⟩
    cases recorded
    exact Option.some.inj shown
  · intro equal
    exact ⟨percentText entry.time total, congrArg some equal, rfl, rfl, rfl⟩

theorem sharesAgree_ofBlock {registry : Registry} {block : BlockProfile} {total : Count} :
    (ofBlock registry block).SharesAgree total ↔
      (roundToHundredths (percent block.time total)).fixed 2 = percentText block.time total :=
  sharesAgree_iff_text

/-- **When the formats agree.**  For every block of every profile the share in documents is the
one in tables, records and reports exactly if scaling the share up does not end half way above
its hundredths and, from `2 ^ 46` percent on, the share survives being scaled up and down. -/
theorem sharesAgree_iff (profile : Profile) (registry : Registry) (block : BlockProfile) :
    ∃ quanta, percent block.time profile.totalTime = .finite false quanta ∧
      ((ListedBlock.ofBlock registry block).SharesAgree profile.totalTime ↔
        ¬ IsHalfway quanta ∧ (2 ^ 46 * one ≤ quanta → roundTrip quanta = quanta)) := by
  obtain ⟨quanta, share_eq, bound, onGrid⟩ := percent_finite block.time profile.totalTime
  refine ⟨quanta, share_eq, ?_⟩
  have texts : (ListedBlock.ofBlock registry block).SharesAgree profile.totalTime ↔
      scaledToWhole 2 (roundTrip quanta) = scaledToWhole 2 quanta := by
    rw [sharesAgree_ofBlock, percentText, share_eq, roundToHundredths_finite bound, fixed_eq_iff]
  rw [texts]
  rcases Nat.lt_or_ge quanta (2 ^ 46 * one) with small | coarse
  · rw [scaledToWhole_roundTrip small]
    split
    next halfway =>
      exact ⟨fun raised => absurd raised (Nat.succ_ne_self _), fun both => absurd halfway both.1⟩
    next notHalfway =>
      exact ⟨fun _ => ⟨notHalfway, fun coarse => absurd small (Nat.not_lt.mpr coarse)⟩,
        fun _ => rfl⟩
  · rw [scaledToWhole_roundTrip_eq_iff coarse onGrid]
    exact ⟨fun back => ⟨not_isHalfway coarse, fun _ => back⟩, fun both => both.2 coarse⟩

end ListedBlock

/-- Samples of which one in eight hundred, an eighth of a percent, is in a block. -/
def rareInput : Bytes :=
  .ofText "1 a\n799 b\n"

/-- Documents show an eighth of a percent as `0.13`, all other formats as `0.12`. -/
theorem not_sharesAgree_rareInput :
    ∃ loaded events, Folded.load ⟨false, id⟩ rareInput = (.ok loaded, events) ∧
      ∃ block ∈ loaded.profile.blocks,
        ¬ (ListedBlock.ofBlock loaded.registry block).SharesAgree loaded.profile.totalTime := by
  have faultless : Folded.Options.fault? ⟨false, id⟩ 1 (Folded.splitLines rareInput) = none := by
    decide +kernel
  have distinct : ∀ sample ∈ Folded.samples ⟨false, id⟩ rareInput, sample.names.Nodup := by
    decide +kernel
  have inRange : Folded.countOf (Folded.samples ⟨false, id⟩ rareInput) ≤ Count.limit := by
    decide +kernel
  obtain ⟨loaded, events, succeeded, reports⟩ := Folded.load_reports_of_faultless faultless
  have known : "a" ∈ Folded.namesOf (Folded.samples ⟨false, id⟩ rareInput) := by
    decide +kernel
  have registered := Folded.blockOf_lt_size known
  rw [← reports.registry_eq, ← reports.size_eq] at registered
  obtain ⟨block, found⟩ : ∃ block, loaded.profile.get? (Folded.blockOf _ "a") = some block :=
    ⟨_, List.getElem?_eq_getElem registered⟩
  refine ⟨loaded, events, succeeded, block, List.mem_of_getElem? found, ?_⟩
  have recounted := reports.recounted distinct inRange found (Folded.blockOf_ne_root _ _)
  rw [reports.registry_eq, Folded.nameOf_blockOf known] at recounted
  have time_eq : block.time = 1 := Count.ext (recounted.time_eq.trans (by decide +kernel))
  have total_eq : loaded.profile.totalTime = 800 := by
    rw [reports.totalTime_eq]
    decide +kernel
  rw [ListedBlock.sharesAgree_ofBlock, time_eq, total_eq]
  decide +kernel

end CallLedger

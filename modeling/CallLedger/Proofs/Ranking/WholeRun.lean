import CallLedger.Proofs.Binary64.WholeShare
import CallLedger.Proofs.Folded.Recount
import CallLedger.Proofs.Program.Limits
import CallLedger.Proofs.Ranking.Selection

/-!
# Blocks that account for the whole run

A block that takes all of the time has a share of one hundred percent, or of the number next below
if the time falls short.  Of the percentages that a job may set as threshold only one hundred
itself tells the two apart, so a listing from there on may leave out such a block.
-/

namespace CallLedger

open Binary64

/-- A percentage is reached by the whole exactly if the whole does not fall short or the number
next below one hundred is enough. -/
theorem le_percent_whole {total : Count} (measured : 0 < total.value) {threshold : Binary64}
    (accepted : threshold.IsPercentage) :
    threshold.le (percent total total) = true ↔
      (total.FallsShort → threshold.le belowHundred = true) := by
  by_cases short : total.FallsShort
  · simp [short, percent_of_fallsShort measured short]
  · have atMost := (Bool.and_eq_true_iff.mp (Job.le_and_le_iff.mpr accepted)).2
    rw [Job.wholeShare_eq] at atMost
    simp [short, le_trans atMost (hundred_le_percent measured short)]

/-- A number whose binary digits fit into the format. -/
def Binary64.OnGrid : Binary64 → Prop
  | .finite _ quanta => spacing quanta ∣ quanta
  | _ => True

/-- All percentages but one hundred itself are at most the number next below. -/
theorem le_belowHundred_iff {threshold : Binary64} (accepted : threshold.IsPercentage)
    (onGrid : threshold.OnGrid) :
    threshold.le belowHundred = true ↔ threshold ≠ Job.wholeShare := by
  rw [Job.wholeShare_eq]
  cases threshold with
  | nan negative => exact absurd accepted (not_isPercentage_nan negative)
  | infinity negative => exact absurd accepted (not_isPercentage_infinity negative)
  | finite negative quanta =>
      obtain ⟨least, most⟩ := isPercentage_finite_iff.mp accepted
      cases negative with
      | true =>
          have below : (finite true quanta).le belowHundred = true :=
            decide_eq_true (Int.le_trans (Int.neg_nonpos_of_nonneg (Int.natCast_nonneg _))
              (Int.natCast_nonneg _))
          simp [below]
      | false =>
          have unit_pos := hundredUnit_pos
          have one_pos := quanta_of_one_pos
          rw [if_neg Bool.false_ne_true, Int.ofNat_le] at most
          rw [belowHundred, le_finite, decide_eq_true_iff, Ne, finite.injEq]
          constructor
          · rintro below ⟨_, equal⟩
            omega
          · intro different
            refine le_below_of_lt onGrid (Nat.lt_of_le_of_ne most fun equal => ?_)
            exact different ⟨rfl, equal⟩

theorem not_wholeShare_le_belowHundred : ¬ Job.wholeShare.le belowHundred = true := by
  decide +kernel

theorem wholeShare_isPercentage : Job.wholeShare.IsPercentage :=
  Job.le_and_le_iff.mp (by decide +kernel)

/-- **The share of the whole run.**  A listing with room for all blocks shows a block that takes
all of the time, unless the time falls short and the threshold is above the number next below one
hundred.  That leaves a single percentage, one hundred itself, and no time below `2 ^ 48`. -/
theorem mem_top_of_whole_iff {profile : Profile} {block : BlockProfile} {limit : Nat}
    {threshold : Binary64} (measured : 0 < profile.totalTime) (accepted : threshold.IsPercentage)
    (member : block ∈ profile.blocks) (notRoot : block.id ≠ .root) (ran : 0 < block.count)
    (whole : block.time = profile.totalTime) (room : profile.size ≤ limit) :
    (block ∈ profile.top limit threshold ↔
        (profile.totalTime.FallsShort → threshold.le belowHundred = true)) ∧
      (threshold.OnGrid → (block ∈ profile.top limit threshold ↔
        ¬ (profile.totalTime.FallsShort ∧ threshold = Job.wholeShare))) ∧
      (profile.totalTime.value < 2 ^ 48 → block ∈ profile.top limit threshold) := by
  have listed_iff : block ∈ profile.top limit threshold ↔
      (profile.totalTime.FallsShort → threshold.le belowHundred = true) := by
    rw [Profile.mem_top_of_size_le room, Profile.isListed_iff, whole,
      le_percent_whole measured accepted]
    exact ⟨fun listed => listed.2.2.2, fun reached => ⟨member, notRoot, ran, reached⟩⟩
  refine ⟨listed_iff, fun onGrid => ?_, fun short => ?_⟩
  · rw [listed_iff, le_belowHundred_iff accepted onGrid, not_and]
  · exact listed_iff.mpr fun fallsShort => absurd fallsShort (Count.not_fallsShort_of_lt short)

/-- A run of four days in nanoseconds, all of them in one block. -/
def longRun : Profile where
  root := ⟨⟨.root, 1, 360287970189641⟩, [], [⟨⟨1⟩, 1, 360287970189641⟩]⟩
  others := [⟨⟨⟨1⟩, 1, 360287970189641⟩, [⟨.root, 1, 360287970189641⟩], []⟩]

theorem mem_top_of_whole_iff_longRun :
    0 < longRun.totalTime ∧ Job.wholeShare.IsPercentage ∧ longRun.totalTime.FallsShort ∧
      ∃ block ∈ longRun.blocks, block.id ≠ .root ∧ 0 < block.count ∧
        block.time = longRun.totalTime ∧
        (block ∈ longRun.top 2 Job.wholeShare ↔
          (longRun.totalTime.FallsShort → Job.wholeShare.le belowHundred = true)) ∧
        (Job.wholeShare.OnGrid → (block ∈ longRun.top 2 Job.wholeShare ↔
          ¬ (longRun.totalTime.FallsShort ∧ Job.wholeShare = Job.wholeShare))) ∧
        (longRun.totalTime.value < 2 ^ 48 → block ∈ longRun.top 2 Job.wholeShare) :=
  ⟨by decide, wholeShare_isPercentage, by decide +kernel, _, .tail _ (.head _), by decide,
    by decide, rfl,
    mem_top_of_whole_iff (by decide) wholeShare_isPercentage (.tail _ (.head _)) (by decide)
      (by decide) rfl (by decide)⟩

/-- The same run as samples. -/
def longRunInput : Bytes :=
  .ofText "360287970189641 a\n"

/-- All of the time is in one block, and a listing from one hundred percent on leaves it out. -/
theorem not_mem_top_longRunInput :
    ∃ loaded events, Folded.load ⟨false, id⟩ longRunInput = (.ok loaded, events) ∧
      0 < loaded.profile.totalTime ∧ Job.wholeShare.IsPercentage ∧
      ∃ block ∈ loaded.profile.blocks, block.id ≠ .root ∧ 0 < block.count ∧
        block.time = loaded.profile.totalTime ∧
        ∀ limit, block ∉ loaded.profile.top limit Job.wholeShare := by
  have faultless : Folded.Options.fault? ⟨false, id⟩ 1 (Folded.splitLines longRunInput) = none := by
    decide +kernel
  have distinct : ∀ sample ∈ Folded.samples ⟨false, id⟩ longRunInput, sample.names.Nodup := by
    decide +kernel
  have inRange : Folded.countOf (Folded.samples ⟨false, id⟩ longRunInput) ≤ Count.limit := by
    decide +kernel
  have known : "a" ∈ Folded.namesOf (Folded.samples ⟨false, id⟩ longRunInput) := by
    decide +kernel
  obtain ⟨loaded, events, succeeded, totalTime_eq, block, member, notRoot, recounted⟩ :=
    Folded.load_recounted faultless distinct inRange known
  have total_eq : loaded.profile.totalTime = 360287970189641 :=
    totalTime_eq.trans (by decide +kernel)
  have time_eq : block.time = 360287970189641 :=
    Count.ext (recounted.time_eq.trans (by decide +kernel))
  have ran : block.count = 1 := recounted.count_eq.trans (by decide +kernel)
  refine ⟨loaded, events, succeeded, by rw [total_eq]; decide, wholeShare_isPercentage, block,
    member, notRoot, by rw [ran]; decide, time_eq.trans total_eq.symm, fun limit listed => ?_⟩
  have reached := (Profile.isListed_iff.mp (List.mem_filter.mp (List.mem_of_mem_take listed)).2).2.2
  rw [time_eq, total_eq, percent_of_fallsShort (by decide) (by decide +kernel)] at reached
  exact not_wholeShare_le_belowHundred reached

end CallLedger

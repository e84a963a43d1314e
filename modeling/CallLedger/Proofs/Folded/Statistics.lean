import CallLedger.Proofs.Folded.Meaning
import CallLedger.Proofs.Run.Conservation
import CallLedger.Report

/-!
# What an ingestion counts

An ingestion keeps its own account of lines, counts and new names, beside the graph that it
builds.  Both are determined by the samples, so the account can be found again in the profile:
a name never stands for the root, every name that is registered is entered, and every line
with a frame leaves the root once.
-/

namespace CallLedger

/-- A report lists no uncovered blocks if all blocks are covered. -/
theorem Report.uncovered_eq_nil {profile : Profile} (covered : profile.covered = profile.size)
    (registry : Registry) (limit : Option Nat) :
    (ofProfile profile registry limit).uncovered = [] := by
  have ran := List.length_filter_eq_length_iff.mp covered
  have none : profile.blocks.filter (·.count = 0) = [] := by
    rw [List.filter_eq_nil_iff]
    intro block member never
    have positive : 0 < block.count := of_decide_eq_true (ran block member)
    rw [of_decide_eq_true never] at positive
    exact absurd positive (by decide)
  exact congrArg (List.map (·.id)) none

namespace Folded

open Activity CallGraph

/-- The counts of some samples, added up. -/
def countOf (samples : List Sample) : Nat :=
  (samples.map (·.count.value)).sum

/-- The number of samples with an empty path. -/
def emptyIn (samples : List Sample) : Nat :=
  samples.countP (·.names = [])

section Log

variable (names : List String) (samples : List Sample)

/-- A frame is entered as often as its name occurs. -/
theorem map_callee_callsIn :
    (callsIn names samples).map Edge.callee = (namesOf samples).map (blockOf names) := by
  rw [callsIn, namesOf, List.map_flatMap, List.map_flatMap]
  apply List.flatMap_congr
  intro sample _
  exact map_callee_callsAlong .root (sample.path names)

theorem noneIntoRoot_logIn : ∀ call ∈ calls (logIn names samples), call.callee ≠ .root := by
  intro call called
  have entered : call.callee ∈ (callsIn names samples).map Edge.callee := by
    rw [← calls_logIn]
    exact List.mem_map_of_mem called
  rw [map_callee_callsIn] at entered
  rcases List.mem_map.mp entered with ⟨name, _, block_eq⟩
  exact block_eq ▸ blockOf_ne_root names name

theorem alongPath_logIn : ∀ activity ∈ logIn names samples, activity.AlongPath := by
  intro activity member
  rcases List.mem_flatMap.mp member with ⟨sample, _, reported⟩
  rcases List.mem_append.mp reported with entered | sampled
  · rcases List.mem_map.mp entered with ⟨call, _, rfl⟩
    trivial
  · cases List.mem_singleton.mp sampled
    exact ⟨_, rfl⟩

theorem totalSampled_logIn : totalSampled (logIn names samples) = countOf samples :=
  sum_map_logIn names samples fun _ => rfl

/-- Every sample with a frame leaves the root once. -/
theorem countP_leaving_callsIn :
    (callsIn names samples).countP (·.caller = .root) + emptyIn samples = samples.length := by
  induction samples with
  | nil => rfl
  | cons sample rest ih =>
      have first : (callsAlong .root (sample.path names)).countP (·.caller = .root) +
          (if sample.names = [] then 1 else 0) = 1 := by
        rw [Sample.path]
        cases named : sample.names with
        | nil => rfl
        | cons outermost inner =>
            -- No name stands for the root, so the path does not come back to it.
            have noReturn : BlockId.root ∉ (outermost :: inner).map (blockOf names) := by
              rw [List.mem_map]
              rintro ⟨name, _, root⟩
              exact blockOf_ne_root names name root
            rw [List.map_cons] at noReturn ⊢
            rw [List.countP_eq_length_filter, filter_leaving_callsAlong noReturn]
            rfl
      rw [callsIn, emptyIn] at ih ⊢
      rw [List.flatMap_cons, List.countP_append, List.countP_cons, List.length_cons]
      simp only [decide_eq_true_eq]
      omega

end Log

/-- What is counted while some samples are ingested. -/
def statsOf (samples : List Sample) (stop : Option Nat) : Stats where
  lines := samples.length
  samples := .ofNat (countOf samples)
  newBlocks := (namesOf samples).eraseDups.length
  stoppedAt := stop

theorem statsOf_concat (samples : List Sample) (sample : Sample) :
    statsOf (samples ++ [sample]) none =
      { statsOf samples none with
        lines := samples.length + 1
        samples := .ofNat (countOf samples) + sample.count
        newBlocks := (namesOf samples).eraseDups.length +
          ((resolveAll (registryOf (namesOf samples)) sample.names).2.filter
            Prod.snd).length } := by
  have counted : countOf (samples ++ [sample]) = countOf samples + sample.count.value := by
    simp [countOf]
  rw [statsOf, counted, Count.ofNat_add, Count.ofNat_value, namesOf_concat,
    length_new_resolveAll, List.length_append]
  rfl

namespace State

theorem stats_apply (state : State) (count : Count) (names : List String) :
    (state.apply count names).1.stats =
      { state.stats with
        lines := state.stats.lines + 1
        samples := state.stats.samples + count
        newBlocks := state.stats.newBlocks +
          ((resolveAll state.registry names).2.filter Prod.snd).length } :=
  rfl

@[simp] theorem stats_conclude (state : State) (decided : Option (Nat × Decision)) :
    (state.conclude decided).1.stats =
      match decided with
      | some (number, .stop) => { state.stats with stoppedAt := some number }
      | _ => state.stats := by
  rcases decided with - | ⟨_, - | _⟩ <;> rfl

/-- An ingestion follows some samples and has counted them. -/
structure Tallies (state : State) (samples : List Sample) : Prop
    extends state.Follows samples where
  stats_eq : state.stats = statsOf samples none

theorem tallies_start : (start .empty freshTracked).Tallies [] where
  toFollows := follows_start
  stats_eq := rfl

/-- Every sample is counted once. -/
theorem invariant_tallies : Invariant Tallies where
  note tallies event := ⟨invariant_follows.note tallies.toFollows event, tallies.stats_eq⟩
  apply {state samples} tallies sample := by
    obtain ⟨next, applied, follows⟩ := invariant_follows.apply tallies.toFollows sample
    refine ⟨next, applied, follows, ?_⟩
    have counted := stats_apply state sample.count sample.names
    rw [applied, tallies.stats_eq, tallies.registry_eq] at counted
    rw [counted, statsOf_concat]
    rfl

end State

/-- The line that ends the samples of an input, if one does. -/
def Options.stop? (options : Options) (input : Bytes) : Option Nat :=
  match options.firstDecision? 1 (splitLines input) with
  | some (number, .stop) => some number
  | _ => none

/-- What was loaded is what the replay of some samples reported, and what it counted. -/
structure Loaded.Reports (loaded : Loaded) (samples : List Sample) (stop : Option Nat) :
    Prop where
  registry_eq : loaded.registry = registryOf (namesOf samples)
  size_eq : loaded.profile.size = loaded.registry.size
  reflects : loaded.profile.Reflects ((ofSize loaded.registry.size).updateAll
    ((logIn (namesOf samples) samples).flatMap requests))
  stats_eq : loaded.stats = statsOf samples stop

variable {options : Options} {input : Bytes}

theorem load_reports_of_faultless
    (faultless : options.fault? 1 (splitLines input) = none) :
    ∃ loaded events, load options input = (.ok loaded, events) ∧
      loaded.Reports (samples options input) (options.stop? input) := by
  rcases ingest_input options input with ⟨final, ingested, finalFollows⟩
  rw [faultless] at ingested
  obtain ⟨prior, tallies, ran⟩ :=
    State.invariant_tallies.ingest State.tallies_start (splitLines input)
  rw [List.nil_append, Options.applied_of_faultless faultless] at tallies
  have concluded : final = (prior.conclude (options.firstDecision? 1 (splitLines input))).1 :=
    congrArg Prod.fst (ingested.symm.trans ran)
  have stats_eq : final.stats = statsOf (samples options input) (options.stop? input) := by
    rw [concluded, State.stats_conclude, tallies.stats_eq, Options.stop?]
    rcases options.firstDecision? 1 (splitLines input) with - | ⟨_, - | _⟩ <;> rfl
  have follows := finalFollows faultless
  obtain ⟨profile, events, collapsed, size_eq, reflects⟩ := follows.exists_profile
  refine ⟨⟨final.registry, profile, final.stats⟩, final.events.reverse ++ events, ?_, ?_⟩
  · simp only [load, finish, ingested, collapsed]
  · exact ⟨follows.registry_eq, size_eq, reflects, stats_eq⟩

variable {loaded : Loaded} {events : List Event}

theorem faultless_of_load (succeeded : load options input = (.ok loaded, events)) :
    options.fault? 1 (splitLines input) = none := by
  cases faulty : options.fault? 1 (splitLines input) with
  | none => rfl
  | some fault =>
      rcases load_of_fault faulty with ⟨others, failed⟩
      rw [failed] at succeeded
      cases succeeded

/-- Whatever is loaded, is loaded from the samples of its input. -/
theorem load_reports (succeeded : load options input = (.ok loaded, events)) :
    loaded.Reports (samples options input) (options.stop? input) := by
  obtain ⟨other, others, otherSucceeded, reports⟩ :=
    load_reports_of_faultless (faultless_of_load succeeded)
  rw [otherSucceeded] at succeeded
  cases succeeded
  exact reports

/-- What an ingestion counted agrees with what its profile shows. -/
structure Loaded.Agrees (loaded : Loaded) (samples : List Sample) : Prop where
  /-- The counts add up to the total time, with saturation on both sides. -/
  samples_eq : loaded.stats.samples = loaded.profile.totalTime
  newBlocks_eq : loaded.stats.newBlocks + 1 = loaded.registry.size
  size_eq : loaded.profile.size = loaded.registry.size
  covered_eq : loaded.profile.covered = loaded.registry.size
  /-- Every registered block ran. -/
  uncovered_eq : ∀ limit,
    (Report.ofProfile loaded.profile loaded.registry limit).uncovered = []
  /-- Every line is a call from the root or has an empty path.  This is exact for any number of
  lines that a count can hold. -/
  lines_eq : loaded.stats.lines ≤ Count.limit →
    loaded.stats.lines =
      (loaded.profile.root.callees.map (·.count.value)).sum + emptyIn samples
  /-- For any number of lines, both sides are the same with saturation. -/
  lines_clamped : .ofNat loaded.stats.lines =
    Count.sum (loaded.profile.root.callees.map Call.count) + .ofNat (emptyIn samples)

namespace Loaded.Reports

variable {samples : List Sample} {stop : Option Nat} (reports : loaded.Reports samples stop)

include reports

theorem conserves : loaded.profile.Conserves (logIn (namesOf samples) samples) :=
  reports.reflects.conserves (grounded_logIn ..) (alongPath_logIn _ _) (noneIntoRoot_logIn _ _)

theorem totalTime_eq : loaded.profile.totalTime = .ofNat (countOf samples) := by
  rw [reports.conserves.totalTime_eq, totalSampled_logIn]

theorem registry_size : loaded.registry.size = (namesOf samples).eraseDups.length + 1 := by
  rw [reports.registry_eq, Registry.size_eq, registryOf, List.length_map]

/-- Every name that is registered is entered. -/
theorem covered_eq : loaded.profile.covered = loaded.registry.size := by
  -- The blocks that were entered are those of the names, each name having one of its own.
  have apart : ∀ left ∈ namesOf samples, ∀ right ∈ namesOf samples,
      blockOf (namesOf samples) left = blockOf (namesOf samples) right → left = right :=
    fun _ known _ _ => blockOf_injective known
  rw [reports.conserves.covered_eq, calls_logIn, map_callee_callsIn, eraseDups_map apart,
    List.length_map, reports.registry_size]

/-- The calls from the root, as its callees count them. -/
theorem callees_root : ∃ edges : List Edge,
    loaded.profile.root.callees.map Call.count =
        edges.map (fun edge => .ofNat ((callsIn (namesOf samples) samples).count edge)) ∧
      (edges.map (callsIn (namesOf samples) samples).count).sum + emptyIn samples =
        samples.length := by
  have listed : ∀ edge ∈ callsIn (namesOf samples) samples,
      edge ∈ leaving .root (logIn (namesOf samples) samples) ↔
        decide (edge.caller = .root) = true := by
    intro edge called
    rw [← calls_logIn] at called
    rw [mem_leaving called, decide_eq_true_eq]
  refine ⟨leaving .root (logIn (namesOf samples) samples), ?_, ?_⟩
  · rw [reports.reflects.callees_eq .root loaded.profile.root rfl,
      row_leaving (grounded_logIn ..), List.map_map, calls_logIn]
    rfl
  · rw [sum_count (nodup_leaving ..) listed, countP_leaving_callsIn]

theorem lines_eq : loaded.stats.lines = samples.length := by
  rw [reports.stats_eq]
  rfl

end Loaded.Reports

/-- **Statistics and profile agree.**  What an ingestion counts on the way is what the profile
shows in the end. -/
theorem load_agrees (succeeded : load options input = (.ok loaded, events)) :
    loaded.Agrees (samples options input) := by
  have reports := load_reports succeeded
  obtain ⟨edges, counts_eq, balance⟩ := reports.callees_root
  generalize samples options input = ingested at reports counts_eq balance
  have values_eq : loaded.profile.root.callees.map (·.count.value) =
      edges.map fun edge =>
        (Count.ofNat ((callsIn (namesOf ingested) ingested).count edge)).value := by
    have valued := congrArg (List.map Count.value) counts_eq
    rwa [List.map_map, List.map_map] at valued
  constructor
  case samples_eq =>
    rw [reports.stats_eq, reports.totalTime_eq]
    rfl
  case newBlocks_eq =>
    rw [reports.stats_eq, reports.registry_size]
    rfl
  case size_eq => exact reports.size_eq
  case covered_eq => exact reports.covered_eq
  case uncovered_eq =>
    intro limit
    apply Report.uncovered_eq_nil
    rw [reports.covered_eq, reports.size_eq]
  case lines_eq =>
    intro inRange
    rw [reports.lines_eq] at inRange ⊢
    rw [values_eq, Count.sum_value_ofNat (by omega), balance]
  case lines_clamped =>
    have clamped := Count.ofNat_sum_value edges
      (callsIn (namesOf ingested) ingested).count 0
    rw [Nat.zero_add, Nat.zero_add] at clamped
    rw [reports.lines_eq, Count.sum_eq, List.map_map, ← balance, Count.ofNat_add, ← clamped,
      ← values_eq]
    rfl

/-- Counts that exceed the limit together, and a path without frames. -/
def saturatingInput : Bytes :=
  .ofText "18446744073709551615 <root>\n1 <root>;b\n2 \n"

theorem load_agrees_saturatingInput :
    ∃ loaded events, load ⟨false, id⟩ saturatingInput = (.ok loaded, events) ∧
      loaded.Agrees (samples ⟨false, id⟩ saturatingInput) := by
  have faultless : Options.fault? ⟨false, id⟩ 1 (splitLines saturatingInput) = none := by
    decide +kernel
  rcases load_of_faultless faultless with ⟨loaded, events, succeeded, _⟩
  exact ⟨loaded, events, succeeded, load_agrees succeeded⟩

end Folded

end CallLedger

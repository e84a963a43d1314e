import CallLedger.Proofs.Folded.Statistics
import CallLedger.Proofs.Run.SelfTime

/-!
# Counting lines again

Where no line names a block twice, the numbers of a profile can be counted from the lines
without a call graph: a line belongs to every block that it names, and to the block that it
names last.  What a profile shows is worked out from merged edges instead, and comes to the
same, whatever paths overlap.
-/

namespace CallLedger.Folded

open Activity CallGraph

/-- The samples in whose path a name occurs. -/
def through (name : String) (samples : List Sample) : List Sample :=
  samples.filter (name ∈ ·.names)

/-- The samples whose innermost frame has a name. -/
def endingIn (name : String) (samples : List Sample) : List Sample :=
  samples.filter (·.names.getLast? = some name)

theorem countOf_filter (samples : List Sample) (selects : Sample → Bool) :
    countOf (samples.filter selects) =
      (samples.map fun sample => if selects sample then sample.count.value else 0).sum := by
  induction samples with
  | nil => rfl
  | cons sample rest ih =>
      rw [countOf] at ih ⊢
      cases selected : selects sample with
      | false => simp [selected, ih]
      | true => simp [selected, ih]

/-- A block shows what the samples say of a name. -/
structure Recounted (block : BlockProfile) (name : String) (samples : List Sample) : Prop where
  /-- It counts the lines through it, with saturation. -/
  count_eq : block.count = .ofNat (through name samples).length
  /-- The count is exact for any number of lines that a count can hold. -/
  count_exact : samples.length ≤ Count.limit → block.count.value = (through name samples).length
  /-- It has the time of the lines through it. -/
  time_eq : block.time.value = countOf (through name samples)
  /-- It has to itself the time of the lines that end in it. -/
  selfTime_eq : block.selfTime.value = countOf (endingIn name samples)

/-- A profile shows of every block what the samples say of its name. -/
structure Loaded.Recounts (loaded : Loaded) (samples : List Sample) : Prop where
  size_eq : loaded.profile.size = loaded.registry.size
  /-- No two blocks stand for one name, the root apart. -/
  names_distinct : (loaded.registry.registered.map Block.name).Nodup
  /-- Every name that occurs has a block. -/
  named : ∀ name ∈ namesOf samples, ∃ id block, id ≠ .root ∧
    loaded.registry.nameOf id = name ∧ loaded.profile.get? id = some block
  others : ∀ id block, loaded.profile.get? id = some block → id ≠ .root →
    Recounted block (loaded.registry.nameOf id) samples
  /-- The root has to itself the time of the lines with an empty path. -/
  root_selfTime : loaded.profile.root.selfTime.value = timeOutside samples
  time_le : ∀ id block, loaded.profile.get? id = some block →
    block.time ≤ loaded.profile.totalTime

section Path

variable {names : List String} {sample : Sample} {name : String}

/-- A path that names every block once has one call into each. -/
theorem countP_callee_path (known : name ∈ names) (distinct : sample.names.Nodup) :
    (callsAlong .root (sample.path names)).countP (·.callee = blockOf names name) =
      if name ∈ sample.names then 1 else 0 := by
  rw [← distinct.count]
  calc
    _ = ((callsAlong .root (sample.path names)).map Edge.callee).countP
          (· = blockOf names name) := by
      rw [List.countP_map]
      rfl
    _ = sample.names.countP fun other => blockOf names other = blockOf names name := by
      rw [map_callee_callsAlong, Sample.path, List.countP_map]
      rfl
    _ = sample.names.count name := by
      apply List.countP_congr
      intro other _
      rw [decide_eq_true_eq, beq_iff_eq]
      constructor
      · intro same
        exact (blockOf_injective known same.symm).symm
      · rintro rfl
        rfl

/-- A path ends in the block of its last name. -/
theorem getLastD_path (known : name ∈ names) :
    (sample.path names).getLastD .root = blockOf names name ↔
      sample.names.getLast? = some name := by
  rw [Sample.path, List.getLastD_eq_getLast?, List.getLast?_map]
  cases sample.names.getLast? with
  | none => simpa using (blockOf_ne_root names name).symm
  | some last =>
      rw [Option.map_some, Option.getD_some, Option.some_inj]
      constructor
      · intro same
        exact (blockOf_injective known same.symm).symm
      · rintro rfl
        rfl

theorem getLastD_path_root :
    (sample.path names).getLastD .root = .root ↔ sample.names = [] := by
  rw [Sample.path, List.getLastD_eq_getLast?, List.getLast?_map, ← List.getLast?_eq_none_iff]
  cases sample.names.getLast? with
  | none => simp
  | some last => simpa using blockOf_ne_root names last

end Path

section Log

variable {samples : List Sample} (distinct : ∀ sample ∈ samples, sample.names.Nodup)

include distinct

theorem nodup_path {sample : Sample} (listed : sample ∈ samples) :
    (BlockId.root :: sample.path (namesOf samples)).Nodup := by
  rw [List.nodup_cons, Sample.path]
  constructor
  · rw [List.mem_map]
    rintro ⟨name, _, root⟩
    exact blockOf_ne_root _ name root
  · apply (distinct sample listed).map_on
    intro name named other _ same
    exact blockOf_injective (mem_namesOf listed named) same

/-- Lines that name every block once are replayed along straight paths. -/
theorem straight_logIn : ∀ activity ∈ logIn (namesOf samples) samples, activity.Straight := by
  intro activity member
  cases activity with
  | entered call =>
      exact noneIntoRoot_logIn (namesOf samples) samples call
        (List.mem_filterMap.mpr ⟨_, member, rfl⟩)
  | sampled inProgress time =>
      rcases List.mem_flatMap.mp member with ⟨sample, listed, reported⟩
      have running : inProgress = callsAlong .root (sample.path (namesOf samples)) := by
        rcases List.mem_append.mp reported with entered | sampled
        · rcases List.mem_map.mp entered with ⟨call, _, impossible⟩
          cases impossible
        · cases List.mem_singleton.mp sampled
          rfl
      exact ⟨_, running, nodup_path distinct listed⟩

variable {name : String} (known : name ∈ namesOf samples)

include known

theorem countP_callee_callsIn :
    (callsIn (namesOf samples) samples).countP (·.callee = blockOf (namesOf samples) name) =
      (through name samples).length := by
  have once := sum_map_ite samples (fun sample => decide (name ∈ sample.names)) 1
  rw [Nat.mul_one] at once
  rw [callsIn, List.countP_flatMap, through, ← once]
  congr 1
  apply List.map_congr_left
  intro sample listed
  simpa using countP_callee_path known (distinct sample listed)

theorem totalTimeAmong_logIn :
    totalTimeAmong (·.callee = blockOf (namesOf samples) name)
        (logIn (namesOf samples) samples) = countOf (through name samples) := by
  rw [totalTimeAmong, sum_map_logIn _ _ fun _ => rfl, through, countOf_filter]
  congr 1
  apply List.map_congr_left
  intro sample listed
  have callsDistinct := nodup_callsAlong .root (nodup_path distinct listed).of_cons
  rw [timeAmong_of_nodup callsDistinct, countP_callee_path known (distinct sample listed)]
  by_cases named : name ∈ sample.names
  · simp [named]
  · simp [named]

end Log

section Log

variable {names : List String} (samples : List Sample)

/-- Time is sampled where a path ends. -/
theorem totalTimeAt_logIn (id : BlockId) :
    totalTimeAt id (logIn names samples) =
      (samples.map fun sample =>
        if (sample.path names).getLastD .root = id then sample.count.value else 0).sum := by
  rw [totalTimeAt, sum_map_logIn _ _ fun _ => rfl]
  simp only [timeAt, endOf_callsAlong]

theorem totalTimeAt_logIn_blockOf {name : String} (known : name ∈ names) :
    totalTimeAt (blockOf names name) (logIn names samples) =
      countOf (endingIn name samples) := by
  rw [totalTimeAt_logIn, endingIn, countOf_filter]
  simp only [getLastD_path known, decide_eq_true_eq]

theorem totalTimeAt_logIn_root :
    totalTimeAt .root (logIn names samples) = timeOutside samples := by
  rw [totalTimeAt_logIn, timeOutside]
  simp only [getLastD_path_root]

end Log

variable {loaded : Loaded}

/-- Blocks divide the time of lines that name every block once. -/
theorem Loaded.Reports.partitions {samples : List Sample} {stop : Option Nat}
    (reports : loaded.Reports samples stop)
    (distinct : ∀ sample ∈ samples, sample.names.Nodup)
    (inRange : countOf samples ≤ Count.limit) :
    loaded.profile.Partitions fun id =>
      totalTimeAt id (logIn (namesOf samples) samples) := by
  apply reports.reflects.partitions (grounded_logIn ..) (straight_logIn distinct)
  rwa [totalSampled_logIn]

/-- The statistics of a block other than the root can be counted from the lines. -/
theorem Loaded.Reports.recounted {samples : List Sample} {stop : Option Nat}
    (reports : loaded.Reports samples stop)
    (distinct : ∀ sample ∈ samples, sample.names.Nodup)
    (inRange : countOf samples ≤ Count.limit) {id : BlockId} {block : BlockProfile}
    (found : loaded.profile.get? id = some block) (notRoot : id ≠ .root) :
    Recounted block (loaded.registry.nameOf id) samples := by
  have grounded := grounded_logIn (namesOf samples) samples
  have registered : id.index < (registryOf (namesOf samples)).size := by
    rw [← reports.registry_eq, ← reports.size_eq]
    exact (List.getElem?_eq_some_iff.mp found).1
  rcases exists_name notRoot registered with ⟨name, known, rfl⟩
  rw [reports.registry_eq, nameOf_blockOf known]
  have count_eq : block.count = .ofNat (through name samples).length := by
    rw [reports.reflects.count_of_log grounded found notRoot, calls_logIn,
      countP_callee_callsIn distinct known]
  constructor
  case count_eq => exact count_eq
  case count_exact =>
    intro countable
    rw [count_eq, Count.value_ofNat]
    exact Nat.min_eq_left ((List.length_filter_le ..).trans countable)
  case time_eq =>
    have part : countOf (through name samples) ≤ countOf samples :=
      (List.filter_sublist.map _).sum_le_sum fun _ _ => Nat.zero_le _
    rw [reports.reflects.time_of_log grounded found notRoot,
      totalTimeAmong_logIn distinct known, Count.value_ofNat]
    exact Nat.min_eq_left (part.trans inRange)
  case selfTime_eq =>
    rw [(reports.partitions distinct inRange).selfTime_eq _ block found,
      totalTimeAt_logIn_blockOf samples known]

variable {options : Options} {input : Bytes} {events : List Event}

/-- **A profile recounts its lines.**  If no line names a block twice and the counts stay in
range, every block has the lines through it, and to itself those that end in it. -/
theorem load_recounts (succeeded : load options input = (.ok loaded, events))
    (distinct : ∀ sample ∈ samples options input, sample.names.Nodup)
    (inRange : countOf (samples options input) ≤ Count.limit) :
    loaded.Recounts (samples options input) := by
  have reports := load_reports succeeded
  constructor
  case size_eq => exact reports.size_eq
  case names_distinct =>
    rw [reports.registry_eq]
    exact nodup_names ..
  case named =>
    intro name known
    have registered := blockOf_lt_size known
    rw [← reports.registry_eq, ← reports.size_eq] at registered
    refine ⟨blockOf _ name, _, blockOf_ne_root _ name, ?_, List.getElem?_eq_getElem registered⟩
    rw [reports.registry_eq, nameOf_blockOf known]
  case others =>
    intro id block found notRoot
    exact reports.recounted distinct inRange found notRoot
  case root_selfTime =>
    rw [(reports.partitions distinct inRange).selfTime_eq .root _ rfl, totalTimeAt_logIn_root]
  case time_le =>
    intro id block found
    have straight := straight_logIn distinct
    rw [reports.reflects.time_of_straight (grounded_logIn ..) straight found,
      reports.conserves.totalTime_eq]
    exact Count.ofNat_le_ofNat (totalTimeThrough_le straight id)

/-- An input without faults has a block for each of its names, whose figures and whose total can
be counted from the lines. -/
theorem load_recounted (faultless : options.fault? 1 (splitLines input) = none)
    (distinct : ∀ sample ∈ samples options input, sample.names.Nodup)
    (inRange : countOf (samples options input) ≤ Count.limit) {name : String}
    (known : name ∈ namesOf (samples options input)) :
    ∃ loaded events, load options input = (.ok loaded, events) ∧
      loaded.profile.totalTime = .ofNat (countOf (samples options input)) ∧
      ∃ block ∈ loaded.profile.blocks, block.id ≠ .root ∧
        Recounted block name (samples options input) := by
  obtain ⟨loaded, events, succeeded, reports⟩ := load_reports_of_faultless faultless
  have registered := blockOf_lt_size known
  rw [← reports.registry_eq, ← reports.size_eq] at registered
  obtain ⟨block, found⟩ : ∃ block, loaded.profile.get? (blockOf _ name) = some block :=
    ⟨_, List.getElem?_eq_getElem registered⟩
  have notRoot := blockOf_ne_root (namesOf (samples options input)) name
  have recounted := reports.recounted distinct inRange found notRoot
  rw [reports.registry_eq, nameOf_blockOf known] at recounted
  have named := reports.reflects.id_eq _ block found
  exact ⟨loaded, events, succeeded, reports.totalTime_eq, block, List.mem_of_getElem? found,
    named ▸ notRoot, recounted⟩

/-- Paths that overlap, a frame that is named like the root, an empty path and a count that
fills what the others leave. -/
def overlappingInput : Bytes :=
  .ofText "10 main;work\n5 main;work;leaf\n3 leaf;main\n2 <root>\n18446744073709551595 \n0 main\n"

theorem load_recounts_overlappingInput :
    ∃ loaded events, load ⟨false, id⟩ overlappingInput = (.ok loaded, events) ∧
      loaded.Recounts (samples ⟨false, id⟩ overlappingInput) := by
  have faultless : Options.fault? ⟨false, id⟩ 1 (splitLines overlappingInput) = none := by
    decide +kernel
  have distinct : ∀ sample ∈ samples ⟨false, id⟩ overlappingInput, sample.names.Nodup := by
    decide +kernel
  have inRange : countOf (samples ⟨false, id⟩ overlappingInput) ≤ Count.limit := by
    decide +kernel
  rcases load_of_faultless faultless with ⟨loaded, events, succeeded, _⟩
  exact ⟨loaded, events, succeeded, load_recounts succeeded distinct inRange⟩

end CallLedger.Folded

import CallLedger.Proofs.Folded.Statistics
import CallLedger.Proofs.Run.Renumbering

/-!
# The order of lines

Lines that change places change the order in which names occur first, and with it the number
of every block, the order of rows and the order of callers.  Apart from these numbers a loaded
input stays the same: two orders are related by the renumbering that takes the block of each
name to the block that the name has in the other order.
-/

namespace CallLedger.Folded

open Activity

/-- The number that a block has when the names are read in another order. -/
def renumber (names others : List String) (id : BlockId) : BlockId :=
  if id = .root ∨ (registryOf names).size ≤ id.index then id
  else blockOf others ((registryOf names).nameOf id)

section Numbers

variable {names others : List String}

theorem renumber_blockOf {name : String} (known : name ∈ names) :
    renumber names others (blockOf names name) = blockOf others name := by
  have own : ¬(blockOf names name = .root ∨
      (registryOf names).size ≤ (blockOf names name).index) :=
    not_or.mpr ⟨blockOf_ne_root names name, Nat.not_le.mpr (blockOf_lt_size known)⟩
  rw [renumber, if_neg own, nameOf_blockOf known]

theorem renumber_root : renumber names others .root = .root :=
  if_pos (.inl rfl)

theorem renumber_of_le {id : BlockId} (beyond : (registryOf names).size ≤ id.index) :
    renumber names others id = id :=
  if_pos (.inr beyond)

/-- A block is the root, or the block of a name, or is not there. -/
theorem block_cases (names : List String) (id : BlockId) :
    id = .root ∨ (∃ name ∈ names, blockOf names name = id) ∨
      (registryOf names).size ≤ id.index := by
  by_cases root : id = .root
  · exact .inl root
  · rcases Nat.lt_or_ge id.index (registryOf names).size with inside | beyond
    · exact .inr (.inl (exists_name root inside))
    · exact .inr (.inr beyond)

variable (same : names.Perm others)

include same

theorem size_registryOf : (registryOf names).size = (registryOf others).size := by
  rw [Registry.size_eq, Registry.size_eq, registryOf, registryOf, List.length_map,
    List.length_map, (eraseDups_perm same).length_eq]

theorem renumber_renumber (id : BlockId) :
    renumber others names (renumber names others id) = id := by
  rcases block_cases names id with rfl | ⟨name, known, rfl⟩ | beyond
  · rw [renumber_root, renumber_root]
  · rw [renumber_blockOf known, renumber_blockOf (same.mem_iff.mp known)]
  · rw [renumber_of_le beyond, renumber_of_le (size_registryOf same ▸ beyond)]

/-- Names in another order make a renumbering of their blocks. -/
def renumberingOf : Renumbering where
  toFun := renumber names others
  invFun := renumber others names
  left_inv := renumber_renumber same
  right_inv := renumber_renumber same.symm
  root_eq := renumber_root

theorem get?_renumber (id : BlockId) :
    (registryOf names).get? id = (registryOf others).get? (renumber names others id) := by
  rcases block_cases names id with rfl | ⟨name, known, rfl⟩ | beyond
  · rw [renumber_root]
    rfl
  · rw [renumber_blockOf known, get?_blockOf known, get?_blockOf (same.mem_iff.mp known)]
  · rw [renumber_of_le beyond]
    have missing : ∀ registry : Registry, registry.size ≤ id.index → registry.get? id = none :=
      fun _ => List.getElem?_eq_none
    rw [missing _ beyond, missing _ (size_registryOf same ▸ beyond)]

theorem renumber_lt_size (id : BlockId) :
    (renumber names others id).index < (registryOf others).size ↔
      id.index < (registryOf names).size := by
  rcases block_cases names id with rfl | ⟨name, known, rfl⟩ | beyond
  · rw [renumber_root, size_registryOf same]
  · rw [renumber_blockOf known]
    exact iff_of_true (blockOf_lt_size (same.mem_iff.mp known)) (blockOf_lt_size known)
  · rw [renumber_of_le beyond, size_registryOf same]

end Numbers

theorem ofPath_renumber (renumbering : Renumbering) (path : List BlockId) (count : Count) :
    ofPath (path.map renumbering) count =
      (ofPath path count).map (Activity.renumber renumbering) := by
  have along := callsAlong_renumber renumbering .root path
  rw [renumbering.root] at along
  rw [ofPath, ofPath, along, List.map_append, List.map_map, List.map_map]
  rfl

/-- What is reported of some samples, under the numbers of another order. -/
theorem logIn_renumber {samples : List Sample} {others : List String}
    (same : (namesOf samples).Perm others) :
    logIn others samples =
      (logIn (namesOf samples) samples).map (Activity.renumber (renumberingOf same)) := by
  rw [logIn, logIn, List.map_flatMap]
  apply List.flatMap_congr
  intro sample listed
  have path_eq : sample.path others =
      (sample.path (namesOf samples)).map (renumberingOf same) := by
    rw [Sample.path, Sample.path, List.map_map]
    apply List.map_congr_left
    intro name named
    exact (renumber_blockOf (mem_namesOf listed named)).symm
  rw [path_eq, ofPath_renumber]

theorem namesOf_perm {samples others : List Sample} (reordered : samples.Perm others) :
    (namesOf samples).Perm (namesOf others) :=
  reordered.flatMap_right Sample.names

theorem statsOf_perm {samples others : List Sample} (reordered : samples.Perm others)
    (stop : Option Nat) : statsOf samples stop = statsOf others stop := by
  rw [statsOf, statsOf, reordered.length_eq, countOf, countOf, (reordered.map _).sum_eq,
    (eraseDups_perm (namesOf_perm reordered)).length_eq]

/-- Two loaded inputs that are the same under other numbers. -/
structure Loaded.SameUpTo (renumbering : Renumbering) (first second : Loaded) : Prop where
  stats_eq : first.stats = second.stats
  /-- Every block that is known has statistics. -/
  size_eq : first.profile.size = first.registry.size
  registered_perm : first.registry.registered.Perm second.registry.registered
  /-- No two blocks have one name, the root apart. -/
  names_distinct : (first.registry.registered.map Block.name).Nodup
  /-- Every block keeps its name. -/
  block_eq : ∀ id, first.registry.get? id = second.registry.get? (renumbering id)
  profile : first.profile.SameUpTo renumbering second.profile

/-- What is loaded from samples in another order is the same under other numbers. -/
theorem Loaded.Reports.sameUpTo {first second : Loaded} {samples others : List Sample}
    {stop : Option Nat} (firstReports : first.Reports samples stop)
    (secondReports : second.Reports others stop) (reordered : samples.Perm others) :
    first.SameUpTo (renumberingOf (namesOf_perm reordered)) second := by
  have same := namesOf_perm reordered
  have renumbered : Renumbered (renumberingOf same) (logIn (namesOf samples) samples)
      (logIn (namesOf others) others) := by
    -- Under the numbers of the second order, both report the same in another order.
    rw [Renumbered, ← logIn_renumber same]
    exact reordered.symm.flatMap_right _
  constructor
  case stats_eq => rw [firstReports.stats_eq, secondReports.stats_eq, statsOf_perm reordered]
  case size_eq => exact firstReports.size_eq
  case registered_perm =>
    rw [firstReports.registry_eq, secondReports.registry_eq]
    exact (eraseDups_perm same).map _
  case names_distinct =>
    rw [firstReports.registry_eq]
    exact nodup_names ..
  case block_eq =>
    rw [firstReports.registry_eq, secondReports.registry_eq]
    exact get?_renumber same
  case profile =>
    apply firstReports.reflects.sameUpTo_renumbered secondReports.reflects (grounded_logIn ..)
      (grounded_logIn ..) renumbered
    rw [firstReports.size_eq, secondReports.size_eq, firstReports.registry_eq,
      secondReports.registry_eq]
    exact renumber_lt_size same

variable {options : Options}

section Lines

variable {lines : List Bytes} (sampled : ∀ line ∈ lines, (options.sample? line).isSome)

include sampled

theorem samplesOf_of_sampled : samplesOf options lines = lines.filterMap options.sample? := by
  induction lines with
  | nil => rfl
  | cons line rest ih =>
      rcases Option.isSome_iff_exists.mp (sampled line List.mem_cons_self) with ⟨sample, parsed⟩
      have later := ih fun other member => sampled other (List.mem_cons_of_mem _ member)
      simp only [samplesOf, parsed, later, List.filterMap_cons]

/-- A sample decides nothing. -/
theorem firstDecision?_of_sampled (noHeader : options.skipHeader = false) (number : Nat) :
    options.firstDecision? number lines = none := by
  induction lines generalizing number with
  | nil => rfl
  | cons line rest ih =>
      have later := ih (fun other member => sampled other (List.mem_cons_of_mem _ member))
        (number + 1)
      have isSample := sampled line List.mem_cons_self
      have decided := options.decision?_eq number line
      have body : number ≠ 1 ∨ options.skipHeader = false := .inr noHeader
      rcases options.read_of_body body line with ⟨sample, parsed, reads⟩ | ⟨noSample, _⟩
      · simp only [reads] at decided
        simp only [Options.firstDecision?, decided, later]
      · rw [noSample] at isSample
        cases isSample

end Lines

/-- An input is loaded if every line of it is a sample. -/
theorem load_of_sampled (noHeader : options.skipHeader = false) {input : Bytes}
    (sampled : ∀ line ∈ splitLines input, (options.sample? line).isSome) :
    ∃ loaded events, load options input = (.ok loaded, events) ∧
      loaded.Reports ((splitLines input).filterMap options.sample?) none := by
  have undecided := firstDecision?_of_sampled sampled noHeader 1
  have faultless : options.fault? 1 (splitLines input) = none := by
    rw [Options.fault?_eq, undecided]
  have samples_eq : samples options input =
      (splitLines input).filterMap options.sample? := by
    rw [samples, noHeader]
    exact samplesOf_of_sampled sampled
  have reports := load_reports_of_faultless faultless
  rwa [samples_eq, Options.stop?, undecided] at reports

/-- **The order of lines does not matter.**  If every line of an input is a sample, any order
of the lines is loaded with the same result, up to the numbers of blocks. -/
theorem load_perm (noHeader : options.skipHeader = false) {first second : Bytes}
    (reordered : (splitLines first).Perm (splitLines second))
    (sampled : ∀ line ∈ splitLines first, (options.sample? line).isSome) :
    ∃ firstLoaded firstEvents secondLoaded secondEvents,
      load options first = (.ok firstLoaded, firstEvents) ∧
        load options second = (.ok secondLoaded, secondEvents) ∧
          ∃ renumbering, firstLoaded.SameUpTo renumbering secondLoaded := by
  have alsoSampled : ∀ line ∈ splitLines second, (options.sample? line).isSome :=
    fun line member => sampled line (reordered.mem_iff.mpr member)
  obtain ⟨firstLoaded, firstEvents, firstSucceeded, firstReports⟩ :=
    load_of_sampled noHeader sampled
  obtain ⟨secondLoaded, secondEvents, secondSucceeded, secondReports⟩ :=
    load_of_sampled noHeader alsoSampled
  exact ⟨firstLoaded, firstEvents, secondLoaded, secondEvents, firstSucceeded, secondSucceeded,
    _, firstReports.sameUpTo secondReports (reordered.filterMap _)⟩

/-- Recursion, a frame that is named like the root, an empty path and counts that exceed the
limit together. -/
def shuffledLines : List Bytes :=
  [.ofText "18446744073709551615 b;<root>;b", .ofText "7 <root>;a", .ofText "3 ",
    .ofText "2 a;b;a"]

theorem load_perm_shuffledLines :
    ∃ firstLoaded firstEvents secondLoaded secondEvents,
      load (.ofFlags false true) (joinLines shuffledLines) = (.ok firstLoaded, firstEvents) ∧
        load (.ofFlags false true) (joinLines shuffledLines.reverse) =
            (.ok secondLoaded, secondEvents) ∧
          ∃ renumbering, firstLoaded.SameUpTo renumbering secondLoaded := by
  have reordered : (splitLines (joinLines shuffledLines)).Perm
      (splitLines (joinLines shuffledLines.reverse)) := by
    decide +kernel
  have sampled : ∀ line ∈ splitLines (joinLines shuffledLines),
      (Options.sample? (.ofFlags false true) line).isSome := by
    decide +kernel
  exact load_perm rfl reordered sampled

end CallLedger.Folded

import CallLedger.Proofs.Folded.Ingestion
import CallLedger.Proofs.Graph.Aggregation

/-!
# Loading means what the samples say

Lines are ingested one by one, and after every one of them the registry knows the names that
were read, the thread is outside of any call, and the graph was built by what the samples so
far report.  Loading succeeds unless a line before the end of the samples has a fault, and
what it returns can be told from the samples alone.
-/

namespace CallLedger.Folded

/-- The first fault of some lines, if it comes before the end of the samples. -/
def Options.fault? (options : Options) (number : Nat) : List Bytes → Option Fault
  | [] => none
  | line :: rest =>
      match options.read number line with
      | .skip _ | .apply _ _ => options.fault? (number + 1) rest
      | .stop => none
      | .fail fault => some fault

/-- The number of a line matters for errors alone. -/
private theorem parseLine_number {text : String} {number : Nat} {line : Line}
    (parsed : parseLine text number = .ok line) (other : Nat) :
    parseLine text other = .ok line := by
  rw [parseLine_eq] at parsed ⊢
  split at parsed
  next ends => rwa [if_pos ends]
  next spaced =>
    rw [if_neg spaced]
    cases counted : Decimal.readCount (countField text) with
    | ok count => simpa only [counted] using parsed
    | error fault => simp only [counted, reduceCtorEq] at parsed

/-- After the header a line is a sample, or nothing of it is applied. -/
theorem Options.read_of_body {options : Options} {number : Nat}
    (body : number ≠ 1 ∨ options.skipHeader = false) (line : Bytes) :
    (∃ sample, options.sample? line = some sample ∧
        options.read number line = .apply sample.count sample.names) ∨
      (options.sample? line = none ∧
        (options.read number line = .stop ∨
          ∃ fault, options.read number line = .fail fault)) := by
  have noHeader : (decide (number = 1) && options.skipHeader) = false := by
    rcases body with later | asked
    · simp [later]
    · simp [asked]
  rw [read, sample?]
  cases line.toText? with
  | none => exact .inr ⟨rfl, .inr ⟨_, rfl⟩⟩
  | some text =>
      simp only [noHeader, Bool.false_eq_true, if_false]
      cases parsed : parseLine text number with
      | error fault =>
          cases reference : parseLine text 0 with
          | error other => exact .inr ⟨rfl, .inr ⟨_, rfl⟩⟩
          | ok line =>
              rw [parseLine_number reference number] at parsed
              cases parsed
      | ok line =>
          rw [parseLine_number parsed 0]
          cases line with
          | sample count frames => exact .inl ⟨_, rfl, rfl⟩
          | sectionEnd => exact .inr ⟨rfl, .inl rfl⟩

theorem Options.fault?_eq (options : Options) (number : Nat) (lines : List Bytes) :
    options.fault? number lines =
      match options.firstDecision? number lines with
      | some (_, .fail fault) => some fault
      | _ => none := by
  induction lines generalizing number with
  | nil => rfl
  | cons line rest ih =>
      have decided := options.decision?_eq number line
      cases reads : options.read number line with
      | skip header | apply count names =>
          simp only [reads] at decided
          simp only [fault?, firstDecision?, reads, decided]
          exact ih (number + 1)
      | stop | fail fault =>
          simp only [reads] at decided
          simp only [fault?, firstDecision?, reads, decided]

/-- After the header, the samples that are applied are those before the first line that is not
one. -/
theorem Options.applied_of_body {options : Options} {number : Nat} (positive : 0 < number)
    (body : number ≠ 1 ∨ options.skipHeader = false) (lines : List Bytes) :
    options.applied number lines = samplesOf options lines := by
  induction lines generalizing number with
  | nil => rfl
  | cons line rest ih =>
      rcases options.read_of_body body line with
        ⟨sample, isSample, reads⟩ | ⟨noSample, stops | ⟨fault, fails⟩⟩
      · -- From the second line on there is no header, whatever was asked for.
        have later : number + 1 ≠ 1 := Nat.succ_ne_succ_iff.mpr (Nat.ne_of_gt positive)
        simp only [applied, samplesOf, reads, isSample]
        rw [ih (Nat.succ_pos number) (.inl later)]
      · simp only [applied, samplesOf, stops, noSample]
      · simp only [applied, samplesOf, fails, noSample]

/-- Without a fault, all samples of an input are applied. -/
theorem Options.applied_of_faultless {options : Options} {input : Bytes}
    (faultless : options.fault? 1 (splitLines input) = none) :
    options.applied 1 (splitLines input) = samples options input := by
  rw [samples]
  generalize splitLines input = lines at faultless
  cases asked : options.skipHeader with
  | false => exact applied_of_body Nat.one_pos (.inr asked) lines
  | true =>
      cases lines with
      | nil => rfl
      | cons header rest =>
          have later : options.applied 2 rest = samplesOf options rest :=
            applied_of_body (Nat.succ_pos 1) (.inl (Nat.succ_ne_self 1)) rest
          cases decoded : header.toText? with
          | none =>
              have reads : options.read 1 header = .fail .invalidText := by
                rw [read, decoded]
              simp only [fault?, reads, reduceCtorEq] at faultless
          | some text =>
              have reads : options.read 1 header = .skip text := by
                simp only [read, decoded, asked]
                rfl
              simp only [applied, reads]
              exact later

/-- A loaded profile means what some samples say. -/
structure Loaded.Means (loaded : Loaded) (samples : List Sample) : Prop where
  /-- After the root, every name has one block, in the order of first occurrence. -/
  blocks_eq : loaded.registry.blocks =
    Block.root :: (namesOf samples).eraseDups.map fun name => ⟨name, .unknown⟩
  /-- A name never stands for the root, also if the root has that name. -/
  block_of_name : ∀ name ∈ namesOf samples, blockOf (namesOf samples) name ≠ .root ∧
    loaded.registry.get? (blockOf (namesOf samples) name) = some ⟨name, .unknown⟩
  size_eq : loaded.profile.size = loaded.registry.size
  /-- The callees of a block are the blocks that follow it in a path, each once, in the order
  of first occurrence, with the number of those places and the counts of those paths. -/
  callees_eq : ∀ caller block, loaded.profile.get? caller = some block →
    block.callees = (calleesIn (namesOf samples) samples caller).eraseDups.map fun callee =>
      ⟨callee, .ofNat ((callsIn (namesOf samples) samples).count ⟨caller, callee⟩),
        .ofNat (timeIn (namesOf samples) samples ⟨caller, callee⟩)⟩
  /-- The root has the time of its callees and the counts of the empty paths. -/
  root_time : loaded.profile.root.time =
    .ofNat ((loaded.profile.root.callees.map (·.time.value)).sum + timeOutside samples)

namespace State

/-- An ingestion follows some samples: it knows their names, its thread is outside of any
call, and the graph was built by what they report. -/
structure Follows (state : State) (samples : List Sample) : Prop where
  registry_eq : state.registry = registryOf (namesOf samples)
  thread : state.tracked.thread.Follows .start
  graph_eq : state.tracked.graph = (CallGraph.ofSize 1).updateAll
    ((logIn (namesOf samples) samples).flatMap Activity.requests)

theorem follows_start : (start .empty freshTracked).Follows [] where
  registry_eq := rfl
  thread := Thread.follows_start
  graph_eq := rfl

/-- Every sample is applied completely, and leaves the thread outside of any call. -/
theorem invariant_follows : Invariant Follows where
  note follows _ := ⟨follows.registry_eq, follows.thread, follows.graph_eq⟩
  apply {state samples} follows sample := by
    rcases state with ⟨registry, ⟨thread, graph⟩, stats, events⟩
    rcases follows with ⟨registry_eq, threadFollows, graph_eq⟩
    have registry_known : registry = registryOf (namesOf samples) := registry_eq
    have resolution := resolveAll_registryOf (namesOf samples) sample.names
    rw [← registry_known, ← namesOf_concat] at resolution
    rcases resolution with ⟨known, blocks_eq⟩
    obtain ⟨left, later, applied, leftFollows⟩ :=
      apply_follows threadFollows (.of_settled rfl) blocks_eq graph stats events sample.count
    rw [ThreadHistory.replay_of_settled rfl] at leftFollows
    refine ⟨_, applied, known, leftFollows, ?_⟩
    rw [logIn_concat, List.flatMap_append, CallGraph.updateAll_append, ← graph_eq,
      ← ThreadHistory.replayed_start]
    rfl

namespace Follows

variable {state : State} {samples : List Sample}

theorem closed (follows : state.Follows samples) :
    state.tracked.thread.close = .ok () := by
  rw [Thread.close, Thread.openCalls, follows.thread.depth_eq, follows.thread.inherited_eq]
  rfl

theorem size_le (follows : state.Follows samples) :
    state.tracked.graph.size ≤ state.registry.size := by
  rw [follows.graph_eq, follows.registry_eq]
  apply Activity.size_requests_le (grounded_logIn ..)
  · rw [Registry.size_eq]
    exact Nat.le_add_left 1 _
  · intro call made
    rw [calls_logIn] at made
    exact lt_size_of_mem_callsIn made

/-- A finished ingestion collapses into a profile of what the samples report. -/
theorem exists_profile (follows : state.Follows samples) :
    ∃ profile events, state.collapse = .ok (⟨state.registry, profile, state.stats⟩, events) ∧
      profile.size = state.registry.size ∧
      profile.Reflects ((CallGraph.ofSize state.registry.size).updateAll
        ((logIn (namesOf samples) samples).flatMap Activity.requests)) := by
  have fits := follows.size_le
  rw [follows.graph_eq] at fits
  have tracked := CallGraph.track_updateAll fits
  rw [← follows.graph_eq] at tracked
  have size_eq : (state.tracked.graph.track state.registry).size = state.registry.size :=
    (CallGraph.size_update state.tracked.graph (.track state.registry)).trans
      (Nat.max_eq_right follows.size_le)
  have wf : (state.tracked.graph.track state.registry).WF := by
    rw [tracked]
    exact CallGraph.wf_updateAll ..
  obtain ⟨profile, computed, reflects⟩ :=
    Profile.reflects_of_wf wf (Nat.le_of_eq size_eq.symm)
  have collapsed : state.collapse = .ok (⟨state.registry, profile, state.stats⟩,
      [.profileComputed profile.size (state.tracked.graph.track state.registry).edgeCount
        profile.totalTime]) := by
    simp only [State.collapse, follows.closed, computed]
    rfl
  refine ⟨profile, _, collapsed, reflects.size_eq.trans size_eq, ?_⟩
  rwa [← tracked]

/-- A finished ingestion collapses into what the samples say. -/
theorem collapse (follows : state.Follows samples) :
    ∃ loaded events, state.collapse = .ok (loaded, events) ∧ loaded.Means samples := by
  obtain ⟨profile, events, collapsed, size_eq, reflects⟩ := follows.exists_profile
  have row_eq := Activity.row_requests (grounded_logIn (namesOf samples) samples)
    state.registry.size
  simp only [calls_logIn, calleesOf_logIn, totalTimeOn_logIn] at row_eq
  refine ⟨_, events, collapsed, ?_⟩
  constructor
  case blocks_eq => simp only [follows.registry_eq]; rfl
  case block_of_name =>
    intro name known
    simp only [follows.registry_eq]
    exact ⟨blockOf_ne_root _ name, get?_blockOf known⟩
  case size_eq => exact size_eq
  case callees_eq =>
    intro caller block found
    exact (reflects.callees_eq caller block found).trans (row_eq caller)
  case root_time =>
    have unattributed_eq : ((CallGraph.ofSize state.registry.size).updateAll
        ((logIn (namesOf samples) samples).flatMap Activity.requests)).unattributed =
          .ofNat (timeOutside samples) := by
      rw [CallGraph.unattributed_updateAll, Activity.totalOutside_requests,
        totalTimeOutside_logIn]
    simp only [reflects.root_time, reflects.callees_eq .root profile.root rfl, unattributed_eq]
    rw [Nat.add_comm, Count.ofNat_add, Count.ofNat_value, ← Count.ofNat_add]

end Follows

end State

/-- An input without faults is ingested to the end of its samples. -/
theorem ingest_input (options : Options) (input : Bytes) :
    ∃ final, ingest options .empty freshTracked input =
        (final, match options.fault? 1 (splitLines input) with
          | none => .ok ()
          | some fault => .error fault) ∧
      (options.fault? 1 (splitLines input) = none → final.Follows (samples options input)) := by
  obtain ⟨prior, follows, ran⟩ :=
    State.invariant_follows.ingest State.follows_start (splitLines input)
  rw [List.nil_append] at follows
  have concluded : ingest options .empty freshTracked input =
      prior.conclude (options.firstDecision? 1 (splitLines input)) := ran
  refine ⟨_, Prod.ext rfl ?_, ?_⟩
  · rw [concluded, options.fault?_eq]
    rcases options.firstDecision? 1 (splitLines input) with - | ⟨_, - | _⟩ <;> rfl
  · intro faultless
    rw [concluded, ← Options.applied_of_faultless faultless]
    rcases options.firstDecision? 1 (splitLines input) with - | ⟨_, - | _⟩
    · exact follows
    · exact ⟨follows.registry_eq, follows.thread, follows.graph_eq⟩
    · exact follows

theorem load_of_faultless {options : Options} {input : Bytes}
    (faultless : options.fault? 1 (splitLines input) = none) :
    ∃ loaded events, load options input = (.ok loaded, events) ∧
      loaded.Means (samples options input) := by
  rcases ingest_input options input with ⟨final, ingested, follows⟩
  rw [faultless] at ingested
  rcases (follows faultless).collapse with ⟨loaded, events, collapsed, means⟩
  refine ⟨loaded, final.events.reverse ++ events, ?_, means⟩
  simp only [load, finish, ingested, collapsed]

theorem load_of_fault {options : Options} {input : Bytes} {fault : Fault}
    (faulty : options.fault? 1 (splitLines input) = some fault) :
    ∃ events, load options input = (.error fault, events) := by
  rcases ingest_input options input with ⟨final, ingested, _⟩
  rw [faulty] at ingested
  refine ⟨final.events.reverse, ?_⟩
  simp only [load, finish, ingested]

/-- **Loading means what the samples say.**  Registry and profile of a loaded input can be
told from its samples alone. -/
theorem load_means {options : Options} {input : Bytes} {loaded : Loaded}
    {events : List Event} (succeeded : load options input = (.ok loaded, events)) :
    loaded.Means (samples options input) := by
  cases faulty : options.fault? 1 (splitLines input) with
  | none =>
      rcases load_of_faultless faulty with ⟨other, otherEvents, otherSucceeded, means⟩
      rw [otherSucceeded] at succeeded
      cases succeeded
      exact means
  | some fault =>
      rcases load_of_fault faulty with ⟨otherEvents, failed⟩
      rw [failed] at succeeded
      cases succeeded

/-- A header, a recursive path, an empty one, and a line after the end of the samples. -/
def recursiveInput : Bytes :=
  .ofText "# cycles\n3 f;g;f;g\n5 <root>;f\n2 \n\n7 h\n"

theorem load_means_recursiveInput :
    ∃ loaded events, load ⟨true, id⟩ recursiveInput = (.ok loaded, events) ∧
      loaded.Means (samples ⟨true, id⟩ recursiveInput) := by
  have faultless : Options.fault? ⟨true, id⟩ 1 (splitLines recursiveInput) = none := by
    decide +kernel
  rcases load_of_faultless faultless with ⟨loaded, events, succeeded, _⟩
  exact ⟨loaded, events, succeeded, load_means succeeded⟩

end CallLedger.Folded

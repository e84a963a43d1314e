import CallLedger.Folded.Load
import CallLedger.Proofs.Folded.Naming
import CallLedger.Proofs.Folded.Replay

/-!
# What an input says

An input is a list of samples: the lines up to the first one that is not a sample, without
the header.  The samples alone say which blocks there are, which calls each block makes, how
often it makes them and how much time they take; threads and graphs do not come into it.
-/

namespace CallLedger.Folded

/-- One line of samples. -/
structure Sample where
  count : Count
  /-- Names of the frames, from the outermost to the innermost. -/
  names : List String
  deriving DecidableEq

/-- The sample of a line, if it is one. -/
def Options.sample? (options : Options) (line : Bytes) : Option Sample :=
  match line.toText? with
  | none => none
  | some text =>
      match parseLine text 0 with
      | .ok (.sample count frames) => some ⟨count, frames.map options.rename⟩
      | _ => none

/-- The samples before the first line that is not one. -/
def samplesOf (options : Options) : List Bytes → List Sample
  | [] => []
  | line :: rest =>
      match options.sample? line with
      | some sample => sample :: samplesOf options rest
      | none => []

/-- The samples of an input. -/
def samples (options : Options) (input : Bytes) : List Sample :=
  let lines := splitLines input
  samplesOf options (if options.skipHeader then lines.tail else lines)

/-- All frame names, as often as they occur. -/
def namesOf (samples : List Sample) : List String :=
  samples.flatMap Sample.names

/-- The blocks of a sample, given all names that were read. -/
def Sample.path (names : List String) (sample : Sample) : List BlockId :=
  sample.names.map (blockOf names)

/-- The calls of some samples, given all names that were read. -/
def callsIn (names : List String) (samples : List Sample) : List Edge :=
  samples.flatMap fun sample => callsAlong .root (sample.path names)

/-- The blocks that a block called in some samples, as often as it did. -/
def calleesIn (names : List String) (samples : List Sample) (caller : BlockId) :
    List BlockId :=
  ((callsIn names samples).filter (·.caller = caller)).map Edge.callee

/-- The counts of the samples in whose path a call occurs, however often it does. -/
def timeIn (names : List String) (samples : List Sample) (call : Edge) : Nat :=
  (samples.map fun sample =>
    if call ∈ callsAlong .root (sample.path names) then sample.count.value else 0).sum

/-- The counts of the samples with an empty path. -/
def timeOutside (samples : List Sample) : Nat :=
  (samples.map fun sample => if sample.names = [] then sample.count.value else 0).sum

@[simp] theorem namesOf_concat (samples : List Sample) (sample : Sample) :
    namesOf (samples ++ [sample]) = namesOf samples ++ sample.names := by
  simp [namesOf]

theorem mem_namesOf {samples : List Sample} {sample : Sample} {name : String}
    (listed : sample ∈ samples) (named : name ∈ sample.names) : name ∈ namesOf samples :=
  List.mem_flatMap.mpr ⟨sample, listed, named⟩

/-- The calls and samples that a thread reports when it replays some samples. -/
def logIn (names : List String) (samples : List Sample) : List Activity :=
  samples.flatMap fun sample => Activity.ofPath (sample.path names) sample.count

theorem logIn_append {names : List String} {samples : List Sample}
    (known : ∀ name ∈ namesOf samples, name ∈ names) (more : List String) :
    logIn (names ++ more) samples = logIn names samples := by
  apply List.flatMap_congr
  intro sample listed
  have path_eq : sample.path (names ++ more) = sample.path names := by
    apply List.map_congr_left
    intro name named
    exact blockOf_append (known name (mem_namesOf listed named)) more
  rw [path_eq]

theorem logIn_concat (samples : List Sample) (sample : Sample) :
    logIn (namesOf (samples ++ [sample])) (samples ++ [sample]) =
      logIn (namesOf samples) samples ++
        Activity.ofPath (sample.path (namesOf (samples ++ [sample]))) sample.count := by
  have earlier : logIn (namesOf samples ++ sample.names) samples =
      logIn (namesOf samples) samples := logIn_append (fun _ member => member) sample.names
  rw [logIn, List.flatMap_append, List.flatMap_singleton, ← logIn, namesOf_concat, earlier]

section Log

variable (names : List String) (samples : List Sample)

theorem calls_logIn : Activity.calls (logIn names samples) = callsIn names samples := by
  induction samples with
  | nil => rfl
  | cons sample rest ih =>
      rw [logIn, List.flatMap_cons, Activity.calls_append, Activity.calls_ofPath, ← logIn, ih,
        callsIn, callsIn, List.flatMap_cons]

theorem calleesOf_logIn (caller : BlockId) :
    Activity.calleesOf caller (logIn names samples) = calleesIn names samples caller := by
  rw [Activity.calleesOf, calls_logIn, calleesIn]

/-- What only samples add to is added up line by line. -/
theorem sum_map_logIn {amount : Activity → Nat} (none : ∀ call, amount (.entered call) = 0) :
    ((logIn names samples).map amount).sum =
      (samples.map fun sample =>
        amount (.sampled (callsAlong .root (sample.path names)) sample.count)).sum := by
  induction samples with
  | nil => rfl
  | cons sample rest ih =>
      have first : ((Activity.ofPath (sample.path names) sample.count).map amount).sum =
          amount (.sampled (callsAlong .root (sample.path names)) sample.count) := by
        simp [Activity.ofPath, Function.comp_def, none]
      rw [logIn] at ih ⊢
      rw [List.flatMap_cons, List.map_append, List.sum_append, first, ih, List.map_cons,
        List.sum_cons]

theorem totalTimeOn_logIn (call : Edge) :
    Activity.totalTimeOn call (logIn names samples) = timeIn names samples call :=
  sum_map_logIn names samples fun _ => rfl

theorem totalTimeOutside_logIn :
    Activity.totalTimeOutside (logIn names samples) = timeOutside samples := by
  rw [Activity.totalTimeOutside, sum_map_logIn names samples fun _ => rfl, timeOutside]
  congr 1
  apply List.map_congr_left
  intro sample _
  rw [Sample.path]
  cases sample.names with
  | nil => rfl
  | cons outermost inner => rfl

theorem grounded_logIn : Activity.Grounded (logIn names samples) := by
  induction samples using List.reverseRecOn with
  | nil => exact .nil
  | append_singleton samples sample ih =>
      rw [logIn, List.flatMap_append, List.flatMap_singleton]
      exact ih.append_ofPath

end Log

theorem lt_size_of_mem_callsIn {samples : List Sample} {call : Edge}
    (member : call ∈ callsIn (namesOf samples) samples) :
    call.caller.index < (registryOf (namesOf samples)).size ∧
      call.callee.index < (registryOf (namesOf samples)).size := by
  rcases List.mem_flatMap.mp member with ⟨sample, listed, along⟩
  have inside : ∀ id ∈ sample.path (namesOf samples),
      id.index < (registryOf (namesOf samples)).size := by
    intro id onPath
    rcases List.mem_map.mp onPath with ⟨name, named, rfl⟩
    exact blockOf_lt_size (mem_namesOf listed named)
  rcases mem_callsAlong along with ⟨callerOn, calleeOn⟩
  constructor
  · rcases callerOn with root | onPath
    · rw [root, Registry.size_eq]
      exact Nat.succ_pos _
    · exact inside _ onPath
  · exact inside _ calleeOn

end CallLedger.Folded

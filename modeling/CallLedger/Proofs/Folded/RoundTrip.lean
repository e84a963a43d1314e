import CallLedger.Proofs.Encoding
import CallLedger.Proofs.Folded.Course
import CallLedger.Proofs.Folded.Grammar
import CallLedger.Proofs.Folded.Outcome

/-!
# Written samples

A sample is written as its count, a space and its names with semicolons between them.  Names
may be empty and hold anything that does not end a name or a line; only a single empty name and
carriage returns at the end of a line cannot be written down.  Ingesting what was written does
to registry, thread and graph what the samples say, one after the other.
-/

namespace CallLedger.Folded

/-- What stands between semicolons consists of them and of the pieces. -/
theorem mem_joined {names : List String} {char : Char}
    (member : char ∈ (";".intercalate names).toList) :
    char = ';' ∨ ∃ name ∈ names, char ∈ name.toList := by
  induction names with
  | nil => simp at member
  | cons name rest ih =>
      cases rest with
      | nil =>
          rw [String.intercalate_singleton] at member
          exact .inr ⟨name, List.mem_cons_self, member⟩
      | cons next others =>
          rw [String.intercalate_cons_cons, String.toList_append, String.toList_append,
            List.mem_append, List.mem_append] at member
          rcases member with (inName | divider) | later
          · exact .inr ⟨name, List.mem_cons_self, inName⟩
          · exact .inl (List.mem_singleton.mp divider)
          · rcases ih later with divider | ⟨other, listed, inOther⟩
            · exact .inl divider
            · exact .inr ⟨other, List.mem_cons_of_mem name listed, inOther⟩

/-- The last character is a semicolon or the last one of the last name. -/
theorem getLast?_joined {names : List String} {char : Char}
    (isLast : (";".intercalate names).toList.getLast? = some char) :
    char = ';' ∨ ∃ name ∈ names.getLast?, name.toList.getLast? = some char := by
  induction names with
  | nil => simp at isLast
  | cons name rest ih =>
      cases rest with
      | nil =>
          rw [String.intercalate_singleton] at isLast
          exact .inr ⟨name, rfl, isLast⟩
      | cons next others =>
          rw [String.intercalate_cons_cons, String.toList_append, String.toList_append,
            List.getLast?_append] at isLast
          cases later : (";".intercalate (next :: others)).toList.getLast? with
          | some last =>
              rw [later] at isLast ih
              rw [List.getLast?_cons_cons]
              exact ih isLast
          | none =>
              left
              rw [later, Option.none_or, List.getLast?_append] at isLast
              exact (Option.some.inj isLast).symm

namespace Sample

/-- What is written for a sample, without the line feed. -/
def line (sample : Sample) : String :=
  toString sample.count ++ " " ++ ";".intercalate sample.names

/-- Samples that can be written down. -/
structure Writable (sample : Sample) : Prop where
  /-- No name has a character that ends it. -/
  undivided : ∀ name ∈ sample.names, ';' ∉ name.toList
  /-- No name has a character that ends its line. -/
  unbroken : ∀ name ∈ sample.names, '\n' ∉ name.toList
  /-- A single empty name would be no name at all. -/
  present : sample.names ≠ [""]
  /-- The carriage return would belong to the end of the line. -/
  ended : ∀ last ∈ sample.names.getLast?, last.toList.getLast? ≠ some '\r'

instance (sample : Sample) : Decidable sample.Writable :=
  decidable_of_iff
    ((∀ name ∈ sample.names, ';' ∉ name.toList) ∧ (∀ name ∈ sample.names, '\n' ∉ name.toList) ∧
      sample.names ≠ [""] ∧ ∀ last ∈ sample.names.getLast?, last.toList.getLast? ≠ some '\r')
    ⟨fun ⟨undivided, unbroken, present, ended⟩ => ⟨undivided, unbroken, present, ended⟩,
      fun writable =>
        ⟨writable.undivided, writable.unbroken, writable.present, writable.ended⟩⟩

/-- What a sample says: resolve its names, enter their blocks, let its count pass and return
from all of them. -/
def carryOut (registry : Registry) (tracked : Tracked) (sample : Sample) :
    Except Violation (Registry × Tracked) :=
  let (registry, resolved) := resolveAll registry sample.names
  (tracked.applyAll (replayOperations (resolved.map Prod.fst) sample.count)).map (registry, ·)

variable {sample : Sample}

theorem toList_line (sample : Sample) :
    sample.line.toList =
      Nat.toDigits 10 sample.count.value ++ ' ' :: (";".intercalate sample.names).toList := by
  have digits_eq : (toString sample.count).toList = Nat.toDigits 10 sample.count.value := by
    rw [← String.toList_ofList (l := Nat.toDigits 10 sample.count.value),
      ← Nat.toString_eq_ofList_toDigits]
    rfl
  rw [line, String.toList_append, String.toList_append, digits_eq, List.append_assoc]
  rfl

namespace Writable

theorem framesOf (writable : sample.Writable) :
    FramesOf (";".intercalate sample.names).toList sample.names := by
  rcases sample with ⟨count, names⟩
  cases names with
  | nil => exact .none
  | cons name rest =>
      refine .pieces ?_ writable.undivided rfl
      cases rest with
      | nil =>
          rw [String.intercalate_singleton]
          intro empty
          have name_eq : name = "" := String.toList_eq_nil_iff.mp empty
          exact writable.present (name_eq ▸ rfl)
      | cons next others => simp

theorem not_mem_line (writable : sample.Writable) : '\n' ∉ sample.line.toList := by
  rw [toList_line, List.mem_append, List.mem_cons]
  rintro (digit | space | inPath)
  · exact Decimal.not_mem_toDigits rfl _ digit
  · cases space
  · rcases mem_joined inPath with divider | ⟨name, listed, inName⟩
    · cases divider
    · exact writable.unbroken name listed inName

/-- Nothing is taken off the end of a line. -/
theorem trimsTo (writable : sample.Writable) :
    TrimsTo sample.line.toList sample.line.toList where
  append := ⟨[], (List.append_nil _).symm, fun _ member => absurd member List.not_mem_nil⟩
  ended := by
    intro last isLast
    refine ⟨?_, ?_⟩
    · rintro rfl
      exact writable.not_mem_line (List.mem_of_mem_getLast? isLast)
    · rintro rfl
      rw [toList_line, List.getLast?_append, List.getLast?_cons, Option.some_or] at isLast
      cases path : (";".intercalate sample.names).toList.getLast? with
      | none =>
          rw [path] at isLast
          cases isLast
      | some last =>
          rw [path] at isLast
          cases isLast
          rcases getLast?_joined path with divider | ⟨name, isLastName, nameEnds⟩
          · cases divider
          · exact writable.ended name isLastName nameEnds

theorem parseLine_line (writable : sample.Writable) (number : Nat) :
    parseLine sample.line number = .ok (.sample sample.count sample.names) := by
  apply parseLine_of_means writable.trimsTo
  rw [toList_line]
  exact .sample Nat.toDigits_ne_nil (Decimal.not_mem_toDigits rfl _)
    (Decimal.denotes_toDigits _) writable.framesOf

theorem read_line (writable : sample.Writable) (number : Nat) :
    (Options.ofFlags false false).read number (.ofText sample.line) =
      .apply sample.count sample.names := by
  rw [Options.read, Bytes.toText?_ofText]
  simp [writable.parseLine_line, Options.ofFlags]

theorem unbroken_line (writable : sample.Writable) : 10 ∉ Bytes.ofText sample.line :=
  mt (Bytes.mem_ofText (by decide : '\n'.toNat < 128)).mp writable.not_mem_line

end Writable

end Sample

/-- What is written for samples, line by line. -/
def textOf (samples : List Sample) : String :=
  String.join (samples.map fun sample => sample.line ++ "\n")

/-- Carry out samples one after the other. -/
def carryOutAll (registry : Registry) (tracked : Tracked) (samples : List Sample) :
    Except Violation (Registry × Tracked) :=
  samples.foldlM (fun reached sample => sample.carryOut reached.1 reached.2) (registry, tracked)

theorem ofText_textOf (samples : List Sample) :
    Bytes.ofText (textOf samples) = joinLines (samples.map fun sample => .ofText sample.line) := by
  have lineFeed : Bytes.ofText "\n" = [10] := by decide +kernel
  induction samples with
  | nil => decide +kernel
  | cons sample rest ih =>
      rw [List.map_cons, joinLines_cons, ← ih, textOf, List.map_cons, String.join_cons,
        Bytes.ofText_append, Bytes.ofText_append, lineFeed, List.append_assoc]
      rfl

theorem splitLines_textOf {samples : List Sample}
    (writable : ∀ sample ∈ samples, sample.Writable) :
    splitLines (.ofText (textOf samples)) = samples.map fun sample => .ofText sample.line := by
  have unbroken : ∀ line ∈ samples.map fun sample => Bytes.ofText sample.line, 10 ∉ line := by
    intro line listed
    rcases List.mem_map.mp listed with ⟨sample, sampleListed, rfl⟩
    exact (writable sample sampleListed).unbroken_line
  have split := splitLines_joinLines_append unbroken []
  rwa [splitLines_nil, List.append_nil, List.append_nil, ← ofText_textOf] at split

namespace State

variable {graph : CallGraph} {state : State}

/-- Applying a sample is carrying it out. -/
theorem Proceeds.apply (proceeds : state.Proceeds graph) (sample : Sample) :
    ∃ next, state.apply sample.count sample.names = (next, .ok ()) ∧ next.Proceeds graph ∧
      sample.carryOut state.registry state.tracked = .ok (next.registry, next.tracked) ∧
      next.stats.lines = state.stats.lines + 1 := by
  rcases @Invariant.apply _ (invariant_proceeds graph) state [] proceeds sample with
    ⟨next, applied, nextProceeds⟩
  refine ⟨next, applied, nextProceeds, ?_, ?_⟩
  · have registry_eq : (resolveAll state.registry sample.names).1 = next.registry :=
      congrArg (fun ran => ran.1.registry) applied
    have replayed := replay_pathOf state sample.count sample.names
    rw [applied, replay_eq] at replayed
    cases told : state.tracked.applyAll
        (replayOperations (state.pathOf sample.names) sample.count) with
    | ok left =>
        simp only [told, Prod.mk.injEq, and_true] at replayed
        rw [pathOf] at told
        rw [Sample.carryOut]
        simp only [told, registry_eq, replayed]
        rfl
    | error violation => simp only [told, Prod.mk.injEq, reduceCtorEq, and_false] at replayed
  · exact congrArg (fun ran => ran.1.stats.lines) applied.symm

/-- Lines that are read as samples are carried out one after the other. -/
theorem Proceeds.ingest_samples (proceeds : state.Proceeds graph) {options : Options}
    {samples : List Sample} {written : Sample → Bytes}
    (reads : ∀ sample ∈ samples, ∀ number,
      options.read number (written sample) = .apply sample.count sample.names) (number : Nat) :
    ∃ final : State, ingest options number state (samples.map written) = (final, .ok ()) ∧
      final.Proceeds graph ∧
      carryOutAll state.registry state.tracked samples = .ok (final.registry, final.tracked) ∧
      final.stats.lines = state.stats.lines + samples.length := by
  induction samples generalizing state number with
  | nil => exact ⟨state, rfl, proceeds, rfl, rfl⟩
  | cons sample rest ih =>
      rcases proceeds.apply sample with ⟨next, applied, nextProceeds, carried, lines_eq⟩
      have restReads := fun other listed => reads other (List.mem_cons_of_mem sample listed)
      rcases ih nextProceeds restReads (number + 1) with
        ⟨final, ran, finalProceeds, restCarried, finalLines⟩
      refine ⟨final, ?_, finalProceeds, ?_, ?_⟩
      · rw [List.map_cons, ingest, reads sample List.mem_cons_self number]
        simp only [applied]
        exact ran
      · rw [carryOutAll, List.foldlM_cons, carried]
        exact restCarried
      · rw [finalLines, lines_eq, List.length_cons, Nat.add_assoc, Nat.add_comm 1]

end State

/-- **What was written is carried out**: ingesting it consumes every line, and registry, thread
and graph become what the samples make of them. -/
theorem ingest_textOf {thread : Thread} (reachable : thread.Reachable) (graph : CallGraph)
    (registry : Registry) {samples : List Sample}
    (writable : ∀ sample ∈ samples, sample.Writable) :
    ∃ final, ingest (.ofFlags false false) registry ⟨thread, graph⟩ (.ofText (textOf samples)) =
        (final, .ok ()) ∧
      carryOutAll registry ⟨thread, graph⟩ samples = .ok (final.registry, final.tracked) ∧
      final.stats.lines = samples.length ∧ final.stats.stoppedAt = none := by
  have starts : (State.start registry ⟨thread, graph⟩).Proceeds graph :=
    ⟨reachable, ⟨[], rfl⟩, rfl⟩
  obtain ⟨final, ran, proceeds, carried, lines_eq⟩ := starts.ingest_samples
    (fun sample listed => (writable sample listed).read_line) 1
  refine ⟨final, ?_, carried, ?_, proceeds.stoppedAt_eq⟩
  · rw [ingest, splitLines_textOf writable]
    exact ran
  · rw [lines_eq, State.start, Nat.zero_add]

/-- Names with a space, with a carriage return inside its path and with nothing in them, and no
names at all. -/
def oddSamples : List Sample :=
  [⟨7, ["main loop", "", "größe"]⟩, ⟨0, []⟩, ⟨18446744073709551615, ["up\rdate\r", ""]⟩]

theorem ingest_textOf_oddSamples :
    tailThread.Reachable ∧ (∀ sample ∈ oddSamples, sample.Writable) ∧
      ∃ final, ingest (.ofFlags false false) .empty ⟨tailThread, .ofSize 2⟩
          (.ofText "7 main loop;;größe\n0 \n18446744073709551615 up\rdate\r;\n") =
            (final, .ok ()) ∧
        carryOutAll .empty ⟨tailThread, .ofSize 2⟩ oddSamples =
          .ok (final.registry, final.tracked) ∧
        final.stats.lines = 3 ∧ final.stats.stoppedAt = none := by
  have writable : ∀ sample ∈ oddSamples, sample.Writable := by decide +kernel
  have written : textOf oddSamples =
      "7 main loop;;größe\n0 \n18446744073709551615 up\rdate\r;\n" := by
    decide +kernel
  have consumed := ingest_textOf reachable_tailThread (.ofSize 2) .empty writable
  rw [written] at consumed
  exact ⟨reachable_tailThread, writable, consumed⟩

end CallLedger.Folded

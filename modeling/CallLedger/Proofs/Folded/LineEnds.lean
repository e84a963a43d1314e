import CallLedger.Folded.Load
import CallLedger.Proofs.Encoding
import CallLedger.Proofs.Folded.Grammar
import Mathlib.Data.List.Forall2

/-!
# Line ends

Carriage returns in front of a line feed do not matter, however many there are.  A line with
carriage returns at its end is text exactly if the line without them is, and what it says is
the same, so the two are ingested alike.  Only what an ingestion notes about a header differs.
-/

namespace CallLedger.Folded

/-- Put carriage returns in front of every line feed, as many as are said for it. -/
def insertReturns (returns : Nat → Nat) : Bytes → Bytes
  | [] => []
  | byte :: rest =>
      if byte = 10 then
        List.replicate (returns 0) 13 ++ 10 :: insertReturns (fun place => returns (place + 1)) rest
      else
        byte :: insertReturns returns rest

example : insertReturns (fun _ => 1) (.ofText "1 a\n2 b\n\n") = .ofText "1 a\r\n2 b\r\n\r\n" := by
  decide +kernel

theorem insertReturns_of_unbroken {line : Bytes} (unbroken : 10 ∉ line) (returns : Nat → Nat)
    (rest : Bytes) : insertReturns returns (line ++ rest) = line ++ insertReturns returns rest := by
  induction line with
  | nil => rfl
  | cons byte others ih =>
      rcases not_or.mp (mt List.mem_cons.mpr unbroken) with ⟨different, othersUnbroken⟩
      rw [List.cons_append, insertReturns, if_neg (Ne.symm different), ih othersUnbroken]
      rfl

/-- Every line gets carriage returns at its end, and no other line is there. -/
theorem splitLines_insertReturns (returns : Nat → Nat) (input : Bytes) :
    List.Forall₂ (fun line other => ∃ count, other = line ++ List.replicate count 13)
      (splitLines input) (splitLines (insertReturns returns input)) := by
  induction input using lines_induction generalizing returns with
  | empty =>
      rw [insertReturns, splitLines_nil]
      exact .nil
  | last line nonempty unbroken =>
      have same := insertReturns_of_unbroken unbroken returns []
      rw [insertReturns, List.append_nil] at same
      rw [same, splitLines_last nonempty unbroken]
      exact .cons ⟨0, (List.append_nil line).symm⟩ .nil
  | cons line rest unbroken ih =>
      have ended : 10 ∉ line ++ List.replicate (returns 0) (13 : UInt8) := by
        intro member
        rcases List.mem_append.mp member with inLine | inReturns
        · exact unbroken inLine
        · cases List.eq_of_mem_replicate inReturns
      rw [insertReturns_of_unbroken unbroken, insertReturns, if_pos rfl, ← List.append_assoc,
        splitLines_append_cons unbroken, splitLines_append_cons ended]
      exact .cons ⟨returns 0, rfl⟩ (ih _)

/-- Line ends at the end of a line do not matter. -/
theorem parseLine_of_trimmed {text other : String}
    (same : trimLineEnds other.toList = trimLineEnds text.toList) (number : Nat) :
    parseLine other number = parseLine text number := by
  rw [parseLine, parseLine, same]

/-- A verdict without the text of a header. -/
def Verdict.bare : Verdict → Verdict
  | .skip _ => .skip ""
  | verdict => verdict

/-- Verdicts that are the same without their headers are the same, or they skip headers. -/
theorem Verdict.eq_or_skip_of_bare {first second : Verdict} (same : second.bare = first.bare) :
    second = first ∨ ∃ header other, first = .skip header ∧ second = .skip other := by
  cases first with
  | skip header =>
      cases second with
      | skip other => exact .inr ⟨header, other, rfl, rfl⟩
      | apply | stop | fail => cases same
  | apply | stop | fail =>
      cases second with
      | skip => cases same
      | apply | stop | fail => exact .inl same

/-- A carriage return at the end of a line makes no difference to what is done about it. -/
theorem Options.read_return (options : Options) (number : Nat) (line : Bytes) :
    (options.read number (line ++ [13])).bare = (options.read number line).bare := by
  have decoded : Bytes.toText? (line ++ [13]) = line.toText?.map (·.push '\r') :=
    Bytes.toText?_concat (by decide : '\r'.toNat < 128) line
  rw [read, read, decoded]
  cases line.toText? with
  | none => rfl
  | some text =>
      have trimmed : trimLineEnds (text.push '\r').toList = trimLineEnds text.toList := by
        rw [String.toList_push]
        exact trimLineEnds_concat rfl text.toList
      simp only [Option.map_some, parseLine_of_trimmed trimmed]
      split <;> rfl

theorem Options.read_returns (options : Options) (number : Nat) (line : Bytes) (count : Nat) :
    (options.read number (line ++ List.replicate count 13)).bare =
      (options.read number line).bare := by
  induction count with
  | zero => rw [List.replicate_zero, List.append_nil]
  | succ count ih =>
      rw [List.replicate_succ', ← List.append_assoc, options.read_return, ih]

namespace State

/-- Two ingestions have done the same, whatever they noted. -/
structure Agrees (first second : State) : Prop where
  registry_eq : second.registry = first.registry
  tracked_eq : second.tracked = first.tracked
  stats_eq : second.stats = first.stats

namespace Agrees

variable {first second : State}

theorem note (agrees : first.Agrees second) (event other : Event) :
    (first.note event).Agrees (second.note other) :=
  ⟨agrees.registry_eq, agrees.tracked_eq, agrees.stats_eq⟩

theorem apply (agrees : first.Agrees second) (count : Count) (names : List String) :
    (first.apply count names).1.Agrees (second.apply count names).1 ∧
      (second.apply count names).2 = (first.apply count names).2 := by
  rcases first with ⟨registry, tracked, stats, events⟩
  rcases second with ⟨_, _, _, otherEvents⟩
  rcases agrees with ⟨rfl, rfl, rfl⟩
  exact ⟨⟨rfl, rfl, rfl⟩, rfl⟩

/-- Lines that are read alike are ingested alike. -/
theorem ingest {options : Options} {lines others : List Bytes}
    (alike : List.Forall₂ (fun line other => ∀ number,
      (options.read number other).bare = (options.read number line).bare) lines others)
    (agrees : first.Agrees second) (number : Nat) :
    (State.ingest options number first lines).1.Agrees
        (State.ingest options number second others).1 ∧
      (State.ingest options number second others).2 =
        (State.ingest options number first lines).2 := by
  induction alike generalizing first second number with
  | nil => exact ⟨agrees, rfl⟩
  | @cons line other lines others same _ ih =>
      rcases Verdict.eq_or_skip_of_bare (same number) with
        equal | ⟨header, otherHeader, reads, otherReads⟩
      · cases reads : options.read number line with
        | skip header =>
            simp only [State.ingest, equal, reads]
            exact ih (agrees.note _ _) (number + 1)
        | apply count names =>
            simp only [State.ingest, equal, reads]
            rcases agrees.apply count names with ⟨applied, sameOutcome⟩
            rcases firstNext : first.apply count names with ⟨firstAfter, outcome⟩
            rcases secondNext : second.apply count names with ⟨secondAfter, otherOutcome⟩
            rw [firstNext, secondNext] at applied sameOutcome
            cases sameOutcome
            cases outcome with
            | ok _ => exact ih applied (number + 1)
            | error violation => exact ⟨applied, rfl⟩
        | stop =>
            simp only [State.ingest, equal, reads]
            refine ⟨⟨agrees.registry_eq, agrees.tracked_eq, ?_⟩, trivial⟩
            exact congrArg (fun stats => { stats with stoppedAt := some number }) agrees.stats_eq
        | fail fault =>
            simp only [State.ingest, equal, reads]
            exact ⟨agrees, trivial⟩
      · simp only [State.ingest, reads, otherReads]
        exact ih (agrees.note _ _) (number + 1)

/-- What is collapsed does not depend on what was noted. -/
theorem collapse_eq (agrees : first.Agrees second) : second.collapse = first.collapse := by
  rw [collapse, collapse, agrees.registry_eq, agrees.tracked_eq, agrees.stats_eq]

end Agrees

end State

/-- **Line ends do not matter**: an input with carriage returns put in front of its line feeds
loads as the input without them does, or fails as that one does. -/
theorem load_insertReturns (options : Options) (returns : Nat → Nat) (input : Bytes) :
    (load options (insertReturns returns input)).1 = (load options input).1 := by
  have alike : List.Forall₂ (fun line other => ∀ number,
      (options.read number other).bare = (options.read number line).bare)
      (splitLines input) (splitLines (insertReturns returns input)) := by
    refine (splitLines_insertReturns returns input).imp ?_
    rintro line other ⟨count, rfl⟩ number
    exact options.read_returns number line count
  have start : (State.start .empty freshTracked).Agrees (.start .empty freshTracked) :=
    ⟨rfl, rfl, rfl⟩
  rcases start.ingest alike 1 with ⟨agrees, sameOutcome⟩
  rw [load, load, ingest, ingest]
  rcases plain : State.ingest options 1 (.start .empty freshTracked) (splitLines input) with
    ⟨state, outcome⟩
  rcases returned : State.ingest options 1 (.start .empty freshTracked)
      (splitLines (insertReturns returns input)) with ⟨otherState, otherOutcome⟩
  rw [plain, returned] at agrees sameOutcome
  cases sameOutcome
  cases outcome with
  | error fault => rfl
  | ok _ =>
      simp only [finish, agrees.collapse_eq]
      cases state.collapse <;> rfl

end CallLedger.Folded

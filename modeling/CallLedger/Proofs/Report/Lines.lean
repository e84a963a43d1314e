import CallLedger.Proofs.Report.Labels
import CallLedger.Report

/-!
# Reading reports

The lines of a report are divided into sections by empty lines, and those of the call graph into
entries by separators.  Each divider also ends the last piece and stands inside of none, so a reader
finds the sections and entries that were written, whatever the names of the blocks are.
-/

namespace CallLedger

/-- Pieces that a divider ends and that do not hold it themselves can be told apart. -/
theorem splitOn_terminated {α : Type} [DecidableEq α] {divider : α} {pieces : List (List α)}
    (whole : ∀ piece ∈ pieces, divider ∉ piece) :
    (pieces.flatMap (· ++ [divider])).splitOn divider = pieces ++ [[]] := by
  induction pieces with
  | nil => rfl
  | cons piece rest ih =>
      obtain ⟨first, others⟩ := List.forall_mem_cons.mp whole
      rw [List.flatMap_cons, List.append_assoc, List.singleton_append,
        List.splitOn_append_cons_self_of_not_mem first, ih others, List.cons_append]

/-- What a report shows under the headings of its sections. -/
structure ReportSections where
  summary : List String
  flat : List String
  /-- The lines of each entry of the call graph. -/
  entries : List (List String)
  uncovered : List String
  locations : List String

namespace ReportSections

open Report

/-- Lines of the call graph. -/
def graph (sections : ReportSections) : List String :=
  sections.entries.flatMap (· ++ [separator])

/-- The line over the columns of the flat profile. -/
def flatColumns : String :=
  "      count     time     self   time%  block"

/-- The line over the columns of the call graph. -/
def graphColumns : String :=
  "      count     time   time%  block"

/-- Lines of each section. -/
def parts (sections : ReportSections) : List (List String) :=
  [["Profile Report", "=============="] ++ sections.summary,
    heading "Flat Profile" ++ [flatColumns] ++ sections.flat,
    heading "Call Graph" ++ [graphColumns] ++ sections.graph,
    heading "Uncovered Blocks" ++ sections.uncovered,
    heading "Block Locations" ++ sections.locations]

/-- Lines of the whole report. -/
def lines (sections : ReportSections) : List String :=
  sections.parts.flatMap (· ++ [""])

/-- Text of the report. -/
def text (sections : ReportSections) : String :=
  String.join (sections.lines.map (· ++ "\n"))

/-- Sections and entries end where a reader takes them to end. -/
structure Divided (sections : ReportSections) : Prop where
  parts : sections.lines.splitOn "" = sections.parts ++ [[]]
  entries : sections.graph.splitOn separator = sections.entries ++ [[]]

/-- The lines that all reports have in common. -/
def captions : List String :=
  ["Profile Report", "==============", flatColumns, graphColumns, separator] ++
    ["Flat Profile", "Call Graph", "Uncovered Blocks", "Block Locations"].flatMap heading

/-- All other lines of a report have a property. -/
structure Each (property : String → Prop) (sections : ReportSections) : Prop where
  summary : ∀ line ∈ sections.summary, property line
  flat : ∀ line ∈ sections.flat, property line
  entries : ∀ entry ∈ sections.entries, ∀ line ∈ entry, property line
  uncovered : ∀ line ∈ sections.uncovered, property line
  locations : ∀ line ∈ sections.locations, property line

variable {sections : ReportSections} {property : String → Prop}

namespace Each

variable (each : sections.Each property) (common : ∀ line ∈ captions, property line)

include each common

theorem of_mem_graph : ∀ line ∈ sections.graph, property line := by
  intro line member
  obtain ⟨entry, listed, inside⟩ := List.mem_flatMap.mp member
  rcases List.mem_append.mp inside with inside | last
  · exact each.entries entry listed line inside
  · exact common line (by simp [captions, List.mem_singleton.mp last])

theorem of_mem_parts : ∀ part ∈ sections.parts, ∀ line ∈ part, property line := by
  have joined {first rest : List String} (within : first ⊆ captions)
      (others : ∀ line ∈ rest, property line) : ∀ line ∈ first ++ rest, property line :=
    List.forall_mem_append.mpr ⟨fun line member => common line (within member), others⟩
  intro part member
  simp only [parts, List.mem_cons, List.not_mem_nil, or_false] at member
  rcases member with rfl | rfl | rfl | rfl | rfl
  · exact joined (by decide +kernel) each.summary
  · exact joined (by decide +kernel) each.flat
  · exact joined (by decide +kernel) (each.of_mem_graph common)
  · exact joined (by decide +kernel) each.uncovered
  · exact joined (by decide +kernel) each.locations

theorem of_mem_lines (ends : property "") : ∀ line ∈ sections.lines, property line := by
  intro line member
  obtain ⟨part, listed, inside⟩ := List.mem_flatMap.mp member
  rcases List.mem_append.mp inside with inside | last
  · exact each.of_mem_parts common part listed line inside
  · rwa [List.mem_singleton.mp last]

end Each

theorem Each.divided (filled : sections.Each (· ≠ ""))
    (closed : ∀ entry ∈ sections.entries, separator ∉ entry) : sections.Divided where
  parts := by
    refine splitOn_terminated fun part member inside => ?_
    exact filled.of_mem_parts (by decide) part member "" inside rfl
  entries := splitOn_terminated closed

end ReportSections

namespace Report

/-- Lines of one entry of the call graph without the separator. -/
def entryBody (registry : Registry) (total : Count) (entry : ReportEntry) : List String :=
  omissionLine entry.omittedCallers ++ entry.callers.map (callLine registry total false) ++
    callLine registry total true entry.block ::
    entry.callees.map (callLine registry total false) ++ omissionLine entry.omittedCallees

/-- The lines of a report by section. -/
def sections (report : Report) (registry : Registry) : ReportSections where
  summary :=
    ["blocks executed: " ++ percentText (.ofNat report.covered) (.ofNat report.size) ++ "% of " ++
        toString report.size,
      "total time: " ++ toString report.totalTime]
  flat := report.flat.map (flatLine registry report.totalTime)
  entries := report.entries.map (entryBody registry report.totalTime)
  uncovered := report.uncovered.map registry.label
  locations := report.locations.map fun (id, block) =>
    registry.label id ++ ": " ++ block.location.display

/-- Whether a line of the call graph is marked. -/
def isMarked (line : String) : Bool :=
  line.toList.take 2 = ['*', '*']

variable {registry : Registry} {total : Count}

@[simp] theorem idOf_label (id : BlockId) : idOf (registry.label id) = id := by
  simpa using idOf_append_label "" registry id (by decide : '[' ∉ "".toList)

@[simp] theorem idOf_flatLine (block : BlockProfile) :
    idOf (flatLine registry total block) = block.id :=
  idOf_append_label _ registry block.id (by decide)

@[simp] theorem idOf_callLine (marked : Bool) (call : Call) :
    idOf (callLine registry total marked call) = call.id := by
  rw [callLine, String.append_assoc]
  exact idOf_append_label _ registry call.id (by cases marked <;> decide)

@[simp] theorem isMarked_callLine (marked : Bool) (call : Call) :
    isMarked (callLine registry total marked call) = marked := by
  cases marked <;> simp [isMarked, callLine, String.toList_append]

theorem eq_of_mem_omissionLine {omitted : Nat} {line : String}
    (member : line ∈ omissionLine omitted) : line = "   ... " ++ toString omitted ++ " more" := by
  rw [omissionLine] at member
  split at member
  next => cases member
  next => exact List.mem_singleton.mp member

/-- A line of an entry stands for a call or for calls left out. -/
theorem eq_of_mem_entryBody {entry : ReportEntry} {line : String}
    (member : line ∈ entryBody registry total entry) :
    (∃ marked call, line = callLine registry total marked call) ∨
      ∃ omitted : Nat, line = "   ... " ++ toString omitted ++ " more" := by
  simp only [entryBody, List.mem_append, List.mem_cons, List.mem_map] at member
  rcases member with ((above | ⟨call, _, rfl⟩) | rfl | ⟨call, _, rfl⟩) | below
  · exact .inr ⟨_, eq_of_mem_omissionLine above⟩
  · exact .inl ⟨false, call, rfl⟩
  · exact .inl ⟨true, entry.block, rfl⟩
  · exact .inl ⟨false, call, rfl⟩
  · exact .inr ⟨_, eq_of_mem_omissionLine below⟩

/-- Entries hold neither empty lines nor separators, which start with other characters. -/
theorem head?_of_mem_entryBody {entry : ReportEntry} {line : String}
    (member : line ∈ entryBody registry total entry) :
    line.toList.head? = some '*' ∨ line.toList.head? = some ' ' := by
  rcases eq_of_mem_entryBody member with ⟨marked, call, rfl⟩ | ⟨omitted, rfl⟩
  · cases marked <;> simp [callLine, String.toList_append]
  · simp [String.toList_append]

theorem not_mem_entryBody {entry : ReportEntry} {line : String}
    (star : line.toList.head? ≠ some '*') (blank : line.toList.head? ≠ some ' ') :
    line ∉ entryBody registry total entry :=
  fun member => (head?_of_mem_entryBody member).elim star blank

/-- Exactly one line of an entry is marked, that of its block. -/
theorem filter_isMarked_entryBody (entry : ReportEntry) :
    (entryBody registry total entry).filter isMarked =
      [callLine registry total true entry.block] := by
  have omission (omitted : Nat) : (omissionLine omitted).filter isMarked = [] := by
    rw [List.filter_eq_nil_iff]
    intro line member
    rw [eq_of_mem_omissionLine member]
    simp [isMarked, String.toList_append]
  have calls (calls : List Call) :
      (calls.map (callLine registry total false)).filter isMarked = [] := by
    rw [List.filter_eq_nil_iff, List.forall_mem_map]
    intro call _
    rw [isMarked_callLine]
    exact Bool.false_ne_true
  simp only [entryBody, List.filter_append, List.filter_cons, omission, calls, isMarked_callLine,
    if_true, List.nil_append, List.append_nil]

variable (report : Report) (registry : Registry)

theorem lines_eq : report.lines registry = (report.sections registry).lines := by
  have graph : (report.sections registry).graph =
      report.entries.flatMap (entryLines registry report.totalTime) := by
    rw [ReportSections.graph, sections, List.flatMap_map]
    rfl
  simp only [lines, summaryLines, flatLines, graphLines, uncoveredLines, locationLines,
    ReportSections.lines, ReportSections.parts, graph, List.flatMap_cons, List.flatMap_nil,
    List.append_assoc, List.cons_append, List.nil_append, List.append_nil]
  rfl

theorem render_eq : report.render registry = (report.sections registry).text := by
  rw [render, lines_eq, ReportSections.text]

theorem append_ne_empty {first last : String} (filled : first ≠ "" ∨ last ≠ "") :
    first ++ last ≠ "" := by
  intro empty
  obtain ⟨rfl, rfl⟩ := String.append_eq_empty_iff.mp empty
  exact filled.elim (· rfl) (· rfl)

theorem filled_sections : (report.sections registry).Each (· ≠ "") where
  summary := by simp [sections]
  flat := by
    rw [sections, List.forall_mem_map]
    exact fun block _ => append_ne_empty (.inr (by decide))
  entries := by
    rw [sections, List.forall_mem_map]
    rintro entry _ line inside rfl
    exact not_mem_entryBody (by decide) (by decide) inside
  uncovered := by
    rw [sections, List.forall_mem_map]
    exact fun id _ => append_ne_empty (.inr (by decide))
  locations := by
    rw [sections, List.forall_mem_map]
    exact fun entry _ => append_ne_empty (.inl (append_ne_empty (.inr (by decide))))

theorem divided_sections : (report.sections registry).Divided := by
  refine (filled_sections report registry).divided ?_
  rw [sections, List.forall_mem_map]
  intro entry _
  exact not_mem_entryBody (by decide) (by decide)

end Report

end CallLedger

import CallLedger.Proofs.Listing.Records
import CallLedger.Proofs.Report.Lines

/-!
# Line feeds in reports

Names and locations are shown as they are, and everything else in a line is words, digits and
blanks.  So the text of a report falls into its lines if the registry has no line feed.
-/

namespace CallLedger

/-- No name and no location has a line feed. -/
def Registry.Unbroken (registry : Registry) : Prop :=
  ∀ block ∈ registry.blocks, '\n' ∉ block.name.toList ∧ '\n' ∉ block.location.source.toList

namespace Report

theorem not_mem_of_isPlain {text : List Char} (plain : Csv.IsPlain text) : '\n' ∉ text :=
  fun member => Bool.noConfusion (plain _ member)

@[simp] theorem not_mem_toDigits (number : Nat) : '\n' ∉ Nat.toDigits 10 number :=
  not_mem_of_isPlain (.toDigits number)

@[simp] theorem not_mem_toString (count : Count) : '\n' ∉ (toString count).toList :=
  not_mem_of_isPlain (Csv.wf_toString count.value)

@[simp] theorem not_mem_percentText (part total : Count) :
    '\n' ∉ (percentText part total).toList :=
  not_mem_of_isPlain (Csv.wf_fixed 2 _)

@[simp] theorem not_mem_alignRight {width : Nat} {text : String} :
    '\n' ∉ (alignRight width text).toList ↔ '\n' ∉ text.toList := by
  simp [alignRight, List.leftpad]

variable {registry : Registry} (unbroken : registry.Unbroken) {total : Count}

include unbroken

theorem not_mem_label (id : BlockId) : '\n' ∉ (registry.label id).toList := by
  have name : '\n' ∉ (registry.nameOf id).toList := by
    rw [Registry.nameOf]
    split
    next block found => exact (unbroken block (List.mem_of_getElem? found)).1
    next => decide
  simp [Registry.label, BlockId.label, name, BlockId.not_mem_hex]

theorem not_mem_flatLine (block : BlockProfile) :
    '\n' ∉ (flatLine registry total block).toList := by
  delta flatLine
  simp [share, not_mem_label unbroken]

theorem not_mem_of_mem_entryBody {entry : ReportEntry} {line : String}
    (member : line ∈ entryBody registry total entry) : '\n' ∉ line.toList := by
  rcases eq_of_mem_entryBody member with ⟨marked, call, rfl⟩ | ⟨omitted, rfl⟩
  · cases marked <;> simp [callLine, share, not_mem_label unbroken]
  · simp

theorem unbroken_sections {report : Report}
    (located : ∀ entry ∈ report.locations, '\n' ∉ entry.2.location.source.toList) :
    (report.sections registry).Each ('\n' ∉ ·.toList) where
  summary := by simp [sections]
  flat := by
    rw [sections, List.forall_mem_map]
    exact fun block _ => not_mem_flatLine unbroken block
  entries := by
    rw [sections, List.forall_mem_map]
    exact fun entry _ line => not_mem_of_mem_entryBody unbroken
  uncovered := by
    rw [sections, List.forall_mem_map]
    exact fun id _ => not_mem_label unbroken id
  locations := by
    rw [sections, List.forall_mem_map]
    rintro ⟨id, block⟩ member
    have source := located (id, block) member
    simp [Location.display, not_mem_label unbroken, source]

/-- The lines of a report are what its line feeds end. -/
theorem splitOn_render {report : Report}
    (located : ∀ entry ∈ report.locations, '\n' ∉ entry.2.location.source.toList) :
    (report.render registry).toList.splitOn '\n' =
      (report.sections registry).lines.map String.toList ++ [[]] := by
  have characters : (report.render registry).toList =
      ((report.sections registry).lines.map String.toList).flatMap (· ++ ['\n']) := by
    rw [render_eq, ReportSections.text, String.toList_join, List.flatMap_map, List.flatMap_map]
    simp only [String.toList_append]
    rfl
  rw [characters]
  refine splitOn_terminated (List.forall_mem_map.mpr ?_)
  exact (unbroken_sections unbroken located).of_mem_lines (by decide +kernel) (by decide)

end Report

end CallLedger

import CallLedger.Listing
import CallLedger.Proofs.Csv.Reading

/-!
# Reading listings back from records

Numbers are written in bare fields, which hold digits, a point and the words for what is no
number.  Names and locations may hold anything, so they are written in quotes.  A reader of the
records of a listing therefore finds the column names and for every block its figures, its name
and its location as they are, whatever characters a name or a location is made of.
-/

namespace CallLedger

namespace Csv

theorem wf_toString (number : Nat) : (Field.bare (toString number)).WF := by
  rw [Field.WF, Nat.toString_eq_ofList_toDigits, String.toList_ofList]
  exact .toDigits number

/-- A number with a fixed count of places is written without separators. -/
theorem wf_fixed (places : Nat) (value : Binary64) : (Field.bare (value.fixed places)).WF := by
  rw [Field.WF]
  cases value with
  | nan negative =>
      rw [Binary64.fixed]
      decide
  | infinity negative =>
      rw [Binary64.fixed]
      cases negative <;> decide
  | finite negative quanta =>
      have digits : IsPlain
          (Nat.toDigits 10 (Binary64.scaledToWhole places quanta / Nat.pow 10 places) ++ '.' ::
            (Nat.toDigits 10 (Binary64.scaledToWhole places quanta % Nat.pow 10 places)).leftpad
              places '0') :=
        .append (.toDigits _) (.cons rfl (.append (.replicate rfl _) (.toDigits _)))
      rw [Binary64.fixed, String.toList_ofList]
      cases negative with
      | false => exact digits
      | true => exact .cons rfl digits

end Csv

namespace Listing

theorem wf_record (total : Count) (entry : ListedBlock) :
    ∀ field ∈ record total entry, field.WF := by
  intro field member
  simp only [record, List.mem_cons, List.not_mem_nil, or_false] at member
  rcases member with rfl | rfl | rfl | rfl | rfl | rfl | rfl
  · exact Csv.wf_toString entry.count.value
  · exact Csv.wf_toString entry.time.value
  · exact Csv.wf_toString entry.selfTime.value
  · exact Csv.wf_fixed 2 _
  · exact Csv.wf_toString entry.id.index
  · trivial
  · trivial

theorem wf_header : ∀ field ∈ header, field.WF := by
  intro field member
  rcases List.mem_map.mp member with ⟨name, named, rfl⟩
  rw [Csv.Field.WF]
  revert name
  decide

/-- **Records can be read back.**  Whatever the names and locations are, a reader finds the
column names and then one record for each block, in order: its figures in decimal digits, its
name and the display form of its location. -/
theorem read?_renderRecords (source : String) (profile : Profile) (registry : Registry)
    (entries : List BlockProfile) :
    Csv.read? (Listing.ofProfile source profile registry entries).renderRecords =
      some (["count", "time", "self_time", "time_pct", "id", "name", "location"] ::
        entries.map fun block =>
          [toString block.count.value, toString block.time.value,
            toString block.selfTime.value, percentText block.time profile.totalTime,
            toString block.id.index, registry.nameOf block.id,
            registry.locationOf block.id]) := by
  have wf : ∀ record ∈ (Listing.ofProfile source profile registry entries).records,
      ∀ field ∈ record, field.WF := by
    intro record member
    rcases List.mem_cons.mp member with rfl | listed
    · exact wf_header
    · rcases List.mem_map.mp listed with ⟨entry, _, rfl⟩
      exact wf_record _ entry
  have filled : [] ∉ (Listing.ofProfile source profile registry entries).records := by
    intro member
    rcases List.mem_cons.mp member with empty | listed
    · cases empty
    · rcases List.mem_map.mp listed with ⟨entry, _, empty⟩
      cases empty
  rw [renderRecords, Csv.read?_render wf filled, records, List.map_cons, List.map_map, ofProfile,
    List.map_map]
  rfl

end Listing

end CallLedger

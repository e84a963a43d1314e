import CallLedger.Listing
import CallLedger.Proofs.Json.RoundTrip

/-!
# Reading listings back from documents

A listing can be put together again from the document that shows it: keys say which figure is
which, numbers are exact, and texts are as they were.  Only the share of the total time is left
aside, which is computed from the other figures and rounded.
-/

namespace CallLedger

namespace JsonValue

/-- The value of the member with this key. -/
def member? (key : String) : JsonValue → Option JsonValue
  | .object members => members.lookup key
  | _ => none

/-- The text that a value is. -/
def text? : JsonValue → Option String
  | .text content => some content
  | _ => none

/-- The items of the array that a value is. -/
def items? : JsonValue → Option (List JsonValue)
  | .array items => some items
  | _ => none

/-- The natural number that a value is. -/
def natural? : JsonValue → Option Nat
  | .number value => if value.den = 1 then value.num.toNat? else none
  | _ => none

/-- The count that a value is. -/
def count? (value : JsonValue) : Option Count :=
  value.natural?.bind Count.ofNat?

/-- The members of an object are found by the keys under which they were written. -/
@[simp] theorem member?_object (key : String) (members : List (String × Json)) :
    (Json.object members).value.member? key = (members.lookup key).map Json.value := by
  rw [Json.value, member?]
  induction members with
  | nil => rfl
  | cons member rest ih =>
      obtain ⟨name, document⟩ := member
      rw [Json.memberValues, List.lookup_cons, List.lookup_cons]
      split
      next => rfl
      next => exact ih

@[simp] theorem text?_text (content : String) :
    (Json.text content).value.text? = some content := rfl

@[simp] theorem items?_array (items : List Json) :
    (Json.array items).value.items? = some (Json.itemValues items) := rfl

@[simp] theorem natural?_whole (number : Nat) :
    (Json.whole number).value.natural? = some number := by
  rw [Json.value, natural?, Rat.den_natCast, Rat.num_natCast]
  rfl

@[simp] theorem count?_whole (count : Count) :
    (Json.whole count.value).value.count? = some count := by
  rw [count?, natural?_whole, Option.bind_some, Count.ofNat?, dif_pos count.value_le]

/-- Entries that can each be put together again can be put together again as a list. -/
theorem mapM_itemValues {Entry : Type} {document : Entry → Json}
    {ofValue? : JsonValue → Option Entry}
    (reads : ∀ entry, ofValue? (document entry).value = some entry) (entries : List Entry) :
    (Json.itemValues (entries.map document)).mapM ofValue? = some entries := by
  induction entries with
  | nil => rfl
  | cons entry rest ih =>
      rw [List.map_cons, Json.itemValues, List.mapM_cons, reads entry, ih]
      rfl

end JsonValue

namespace Registry

theorem nameOf_eq (registry : Registry) (id : BlockId) :
    registry.nameOf id = (registry.get? id).elim "?" Block.name := by
  rw [nameOf]
  cases registry.get? id <;> rfl

theorem locationOf_eq (registry : Registry) (id : BlockId) :
    registry.locationOf id = (registry.get? id).elim "" fun block => block.location.display := by
  rw [locationOf]
  cases registry.get? id <;> rfl

end Registry

namespace ListedCall

/-- The call that a value describes. -/
def ofValue? (value : JsonValue) : Option ListedCall := do
  return {
    id := ⟨← (← value.member? "id").natural?⟩
    name := ← (← value.member? "name").text?
    count := ← (← value.member? "count").count?
    time := ← (← value.member? "time").count? }

theorem ofValue?_document (call : ListedCall) : ofValue? call.document.value = some call := by
  simp [ofValue?, document, List.lookup_cons]

end ListedCall

namespace ListedBlock

/-- The block that a value describes. -/
def ofValue? (value : JsonValue) : Option ListedBlock := do
  return {
    id := ⟨← (← value.member? "id").natural?⟩
    name := ← (← value.member? "name").text?
    location := ← (← value.member? "location").text?
    count := ← (← value.member? "count").count?
    time := ← (← value.member? "time").count?
    selfTime := ← (← value.member? "self_time").count?
    callers := ← (← (← value.member? "callers").items?).mapM ListedCall.ofValue?
    callees := ← (← (← value.member? "callees").items?).mapM ListedCall.ofValue? }

theorem ofValue?_document (total : Count) (entry : ListedBlock) :
    ofValue? (entry.document total).value = some entry := by
  simp [ofValue?, document, List.lookup_cons,
    JsonValue.mapM_itemValues ListedCall.ofValue?_document]

end ListedBlock

namespace Listing

/-- The listing that a value describes. -/
def ofValue? (value : JsonValue) : Option Listing := do
  return {
    source := ← (← value.member? "source").text?
    totalTime := ← (← value.member? "total_time").count?
    blocks := ← (← value.member? "blocks").natural?
    covered := ← (← value.member? "covered").natural?
    entries := ← (← (← value.member? "entries").items?).mapM ListedBlock.ofValue? }

theorem ofValue?_document (listing : Listing) :
    ofValue? listing.document.value = some listing := by
  simp [ofValue?, document, List.lookup_cons,
    JsonValue.mapM_itemValues (ListedBlock.ofValue?_document listing.totalTime)]

/-- **Documents can be read back.**  Whatever the names and locations are, the text is one JSON
document and an end of line, and a reader of the document finds the figures of the run and, for
every block in order, its figures, its name, its location and the calls around it. -/
theorem read?_renderDocument (source : String) (profile : Profile) (registry : Registry)
    (entries : List BlockProfile) :
    ∃ document value,
      (Listing.ofProfile source profile registry entries).renderDocument = document ++ "\n" ∧
        Json.read? document = some value ∧
        Listing.ofValue? value = some {
          source := source
          totalTime := profile.totalTime
          blocks := profile.size
          covered := profile.covered
          entries := entries.map fun block => {
            id := block.id
            name := (registry.get? block.id).elim "?" Block.name
            location := (registry.get? block.id).elim "" fun found => found.location.display
            count := block.count
            time := block.time
            selfTime := block.selfTime
            callers := block.callers.map fun call =>
              ⟨call.id, (registry.get? call.id).elim "?" Block.name, call.count, call.time⟩
            callees := block.callees.map fun call =>
              ⟨call.id, (registry.get? call.id).elim "?" Block.name, call.count, call.time⟩
          } } := by
  refine ⟨(Listing.ofProfile source profile registry entries).document.render,
    (Listing.ofProfile source profile registry entries).document.value, rfl,
    Json.read?_render _, ?_⟩
  simp only [ofValue?_document, ← Registry.nameOf_eq, ← Registry.locationOf_eq]
  rfl

end Listing

end CallLedger

import Mathlib.Data.List.Basic
import Mathlib.Data.List.Induction
import Mathlib.Data.List.Nodup
import Mathlib.Data.List.Perm.Basic

/-!
# Order of first occurrence

Rows of a call graph, active paths and the registry all list things once, in the order in
which they first occurred.  On lists this is `List.eraseDups`; the lemmas here say how it
grows at the end of a list, which is where a run adds to it.
-/

namespace CallLedger

variable {α : Type} [BEq α] [LawfulBEq α]

/-- One more element is kept only if it did not occur before. -/
theorem eraseDups_concat (values : List α) (value : α) :
    (values ++ [value]).eraseDups =
      if value ∈ values then values.eraseDups else values.eraseDups ++ [value] := by
  rw [List.eraseDups_append]
  by_cases seen : value ∈ values
  · simp [seen, List.removeAll]
  · simp [seen, List.removeAll, List.eraseDups_cons]

/-- What is already listed stays where it is when the list grows. -/
theorem eraseDups_prefix_append (values more : List α) :
    values.eraseDups <+: (values ++ more).eraseDups := by
  rw [List.eraseDups_append]
  exact List.prefix_append ..

theorem eraseDups_append_of_subset {values more : List α}
    (subset : ∀ value ∈ more, value ∈ values) :
    (values ++ more).eraseDups = values.eraseDups := by
  have nothingNew : more.removeAll values = [] := by
    rw [List.removeAll, List.filter_eq_nil_iff]
    intro value member
    simp [subset value member]
  rw [List.eraseDups_append, nothingNew, List.eraseDups_nil, List.append_nil]

/-- What a list adds depends only on what was listed before. -/
theorem eraseDups_append_congr {left right : List α}
    (same : left.eraseDups = right.eraseDups) (more : List α) :
    (left ++ more).eraseDups = (right ++ more).eraseDups := by
  have sameNew : more.removeAll left = more.removeAll right := by
    apply List.filter_congr
    intro value _
    have sameMember : value ∈ left ↔ value ∈ right := by
      rw [← List.mem_eraseDups, same, List.mem_eraseDups]
    simp [sameMember]
  rw [List.eraseDups_append, List.eraseDups_append, same, sameNew]

theorem nodup_eraseDups (values : List α) : values.eraseDups.Nodup := by
  cases values with
  | nil => simp
  | cons value rest =>
      rw [List.eraseDups_cons, List.nodup_cons]
      constructor
      · simp
      · exact nodup_eraseDups (rest.filter fun other => !other == value)
termination_by values.length
decreasing_by exact Nat.lt_succ_of_le (List.length_filter_le ..)

omit [LawfulBEq α] in
@[simp] theorem eraseDups_eq_nil {values : List α} :
    values.eraseDups = [] ↔ values = [] := by
  cases values <;> simp [List.eraseDups_cons]

theorem eraseDups_of_nodup {values : List α} (distinct : values.Nodup) :
    values.eraseDups = values := by
  induction values with
  | nil => rfl
  | cons value rest ih =>
      rcases List.nodup_cons.mp distinct with ⟨fresh, restDistinct⟩
      have others : rest.filter (fun other => !other == value) = rest := by
        rw [List.filter_eq_self]
        intro other member
        have different : other ≠ value := fun equal => fresh (equal ▸ member)
        simpa using different
      rw [List.eraseDups_cons, others, ih restDistinct]

/-- Different elements stay different, so the order of first occurrence does not change. -/
theorem eraseDups_map {β : Type} [BEq β] [LawfulBEq β] {place : α → β} {values : List α}
    (injective : ∀ left ∈ values, ∀ right ∈ values, place left = place right → left = right) :
    (values.map place).eraseDups = values.eraseDups.map place := by
  induction values using List.reverseRecOn with
  | nil => rfl
  | append_singleton values last ih =>
      have earlier := ih fun left leftIn right rightIn =>
        injective left (List.mem_append_left _ leftIn) right (List.mem_append_left _ rightIn)
      have seen_iff : place last ∈ values.map place ↔ last ∈ values := by
        constructor
        · intro seen
          rcases List.mem_map.mp seen with ⟨other, otherIn, same⟩
          have equal := injective other (List.mem_append_left _ otherIn) last (by simp) same
          exact equal ▸ otherIn
        · exact List.mem_map_of_mem
      rw [List.map_append, List.map_singleton, eraseDups_concat, eraseDups_concat, earlier]
      simp only [seen_iff]
      split
      · rfl
      · rw [List.map_append, List.map_singleton]

theorem eraseDups_perm {left right : List α} (same : left.Perm right) :
    left.eraseDups.Perm right.eraseDups := by
  rw [List.perm_ext_iff_of_nodup (nodup_eraseDups left) (nodup_eraseDups right)]
  intro value
  simp [same.mem_iff]

end CallLedger

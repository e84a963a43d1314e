import CallLedger.Folded.Ingest
import CallLedger.Proofs.FirstSeen

/-!
# Blocks of frame names

While an input is read, its frame names are numbered in the order in which they occur
first.  The block of a name can therefore be told from the names alone, and it stays the
same however much is read after it.
-/

namespace CallLedger.Folded

/-- The registry after some names were read. -/
def registryOf (names : List String) : Registry :=
  ⟨names.eraseDups.map fun name => ⟨name, .unknown⟩⟩

/-- The block of a name that is among those that were read. -/
def blockOf (names : List String) (name : String) : BlockId :=
  ⟨names.eraseDups.idxOf name + 1⟩

theorem blockOf_ne_root (names : List String) (name : String) : blockOf names name ≠ .root := by
  intro equal
  exact Nat.succ_ne_zero _ (congrArg BlockId.index equal)

/-- The block of a name does not change while more is read. -/
theorem blockOf_append {names : List String} {name : String} (known : name ∈ names)
    (more : List String) : blockOf (names ++ more) name = blockOf names name := by
  rcases eraseDups_prefix_append names more with ⟨added, extended⟩
  rw [blockOf, ← extended, List.idxOf_append_of_mem (List.mem_eraseDups.mpr known), blockOf]

theorem blockOf_lt_size {names : List String} {name : String} (known : name ∈ names) :
    (blockOf names name).index < (registryOf names).size := by
  rw [blockOf, Registry.size_eq, registryOf, List.length_map]
  apply Nat.succ_lt_succ
  exact List.idxOf_lt_length_of_mem (List.mem_eraseDups.mpr known)

theorem get?_blockOf {names : List String} {name : String} (known : name ∈ names) :
    (registryOf names).get? (blockOf names name) = some ⟨name, .unknown⟩ := by
  have inside := List.idxOf_lt_length_of_mem (List.mem_eraseDups.mpr known)
  rw [blockOf, registryOf, Registry.get?, Registry.blocks, List.getElem?_cons_succ,
    List.getElem?_map, List.getElem?_eq_getElem inside, List.getElem_idxOf, Option.map_some]

/-- No two blocks have one name, the root apart. -/
theorem nodup_names (names : List String) :
    ((registryOf names).registered.map Block.name).Nodup := by
  have same : (Block.name ∘ fun name => ⟨name, .unknown⟩) = (id : String → String) := rfl
  rw [registryOf, List.map_map, same, List.map_id]
  exact nodup_eraseDups names

theorem nameOf_blockOf {names : List String} {name : String} (known : name ∈ names) :
    (registryOf names).nameOf (blockOf names name) = name := by
  rw [Registry.nameOf, get?_blockOf known]

/-- Every block but the root is the block of a name. -/
theorem exists_name {names : List String} {id : BlockId} (notRoot : id ≠ .root)
    (registered : id.index < (registryOf names).size) :
    ∃ name ∈ names, blockOf names name = id := by
  rcases id with ⟨index⟩
  cases index with
  | zero => exact absurd rfl notRoot
  | succ index =>
      rw [Registry.size_eq, registryOf, List.length_map] at registered
      have inside : index < names.eraseDups.length := Nat.lt_of_succ_lt_succ registered
      refine ⟨names.eraseDups[index], List.mem_eraseDups.mp (List.getElem_mem inside), ?_⟩
      rw [blockOf, (nodup_eraseDups names).idxOf_getElem]

private theorem findIdx?_beq (names : List String) (name : String) :
    names.findIdx? (· == name) = if name ∈ names then some (names.idxOf name) else none := by
  by_cases known : name ∈ names
  · rw [if_pos known, List.findIdx?_eq_some_iff_findIdx_eq]
    exact ⟨List.idxOf_lt_length_of_mem known, rfl⟩
  · rw [if_neg known, List.findIdx?_eq_none_iff]
    intro other member
    exact beq_false_of_ne fun equal => known (equal ▸ member)

/-- A name is looked up, and given a block of its own only if it was not read before. -/
theorem resolve_registryOf (names : List String) (name : String) :
    (registryOf names).resolve name =
      ⟨registryOf (names ++ [name]), blockOf (names ++ [name]) name,
        !decide (name ∈ names)⟩ := by
  have search : (registryOf names).registered.findIdx? (·.name == name) =
      names.eraseDups.findIdx? (· == name) := by
    rw [registryOf, List.findIdx?_map]
    rfl
  rw [Registry.resolve, search, findIdx?_beq]
  by_cases known : name ∈ names
  · have extended := eraseDups_concat names name
    rw [if_pos known] at extended
    simp [known, registryOf, blockOf, extended]
  · have extended := eraseDups_concat names name
    rw [if_neg known] at extended
    have absent : name ∉ names.eraseDups := fun member => known (List.mem_eraseDups.mp member)
    simp [known, registryOf, blockOf, extended, Registry.register, Registry.nextId,
      List.idxOf_append_of_notMem absent]

/-- Names are resolved to the blocks that they have when all of them were read. -/
theorem resolveAll_registryOf (seen names : List String) :
    (resolveAll (registryOf seen) names).1 = registryOf (seen ++ names) ∧
      (resolveAll (registryOf seen) names).2.map Prod.fst =
        names.map (blockOf (seen ++ names)) := by
  induction names generalizing seen with
  | nil => simp [resolveAll]
  | cons name rest ih =>
      rcases ih (seen ++ [name]) with ⟨registry_eq, blocks_eq⟩
      -- The first name gets its block before the others are read and keeps it.
      have first_eq : blockOf (seen ++ [name] ++ rest) name = blockOf (seen ++ [name]) name :=
        blockOf_append (by simp) rest
      rw [List.append_assoc, List.singleton_append] at registry_eq blocks_eq first_eq
      rw [resolveAll, resolve_registryOf, List.map_cons, List.map_cons, first_eq]
      exact ⟨registry_eq, congrArg (_ :: ·) blocks_eq⟩

/-- As many names are found to be new as there are blocks added. -/
theorem length_new_resolveAll (seen names : List String) :
    seen.eraseDups.length + ((resolveAll (registryOf seen) names).2.filter Prod.snd).length =
      (seen ++ names).eraseDups.length := by
  induction names generalizing seen with
  | nil => simp [resolveAll]
  | cons name rest ih =>
      have later := ih (seen ++ [name])
      have extended := eraseDups_concat seen name
      rw [List.append_assoc, List.singleton_append] at later
      rw [resolveAll, resolve_registryOf, ← later, extended]
      by_cases known : name ∈ seen
      · simp [known]
      · simp only [known, decide_false, Bool.not_false, if_false, List.filter_cons_of_pos,
          List.length_cons, List.length_append, List.length_nil]
        omega

/-- Different names that were read have different blocks. -/
theorem blockOf_injective {names : List String} {left right : String} (known : left ∈ names)
    (same : blockOf names left = blockOf names right) : left = right := by
  have index_eq := Nat.succ.inj (congrArg BlockId.index same)
  exact List.idxOf_inj (List.mem_eraseDups.mpr known) |>.mp index_eq

end CallLedger.Folded

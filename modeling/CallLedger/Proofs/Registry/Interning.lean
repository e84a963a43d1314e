import CallLedger.Folded.Ingest

/-!
# Interning

A registry has two look-ups by name.  One finds the first block with exactly this name, and it
may be the root.  The other one resolves frame names: it passes over the root and adds a block if
it finds none.  Blocks are only added behind the others, so what either of them finds first it
finds first from then on, even if blocks that were registered otherwise have the same name.
-/

namespace CallLedger

namespace BlockId

/-- An identifier has some property, and no lower one has it. -/
def IsFirst (id : BlockId) (holds : BlockId → Prop) : Prop :=
  holds id ∧ ∀ other, holds other → id.index ≤ other.index

theorem IsFirst.unique {holds : BlockId → Prop} {left right : BlockId}
    (leftFirst : left.IsFirst holds) (rightFirst : right.IsFirst holds) : left = right := by
  have same := Nat.le_antisymm (leftFirst.2 right rightFirst.1) (rightFirst.2 left leftFirst.1)
  exact congrArg BlockId.mk same

end BlockId

/-- A search by name ends at the least position with this name. -/
theorem findIdx?_name_eq_some_iff {blocks : List Block} {name : String} {position : Nat} :
    blocks.findIdx? (·.name == name) = some position ↔
      (∃ block, blocks[position]? = some block ∧ block.name = name) ∧
        ∀ index block, blocks[index]? = some block → block.name = name → position ≤ index := by
  rw [List.findIdx?_eq_some_iff_getElem]
  constructor
  · rintro ⟨inside, named, before⟩
    refine ⟨⟨_, List.getElem?_eq_getElem inside, eq_of_beq named⟩, ?_⟩
    rintro index block found rfl
    rcases List.getElem?_eq_some_iff.mp found with ⟨_, rfl⟩
    exact Nat.le_of_not_lt fun earlier => before index earlier (beq_self_eq_true _)
  · rintro ⟨⟨block, found, named⟩, least⟩
    rcases List.getElem?_eq_some_iff.mp found with ⟨inside, rfl⟩
    refine ⟨inside, beq_iff_eq.mpr named, ?_⟩
    intro index earlier same
    have found := List.getElem?_eq_getElem (Nat.lt_trans earlier inside)
    exact Nat.not_le_of_lt earlier (least index _ found (eq_of_beq same))

namespace Registry

/-- An identifier was issued to a block with some name. -/
def Named (registry : Registry) (name : String) (id : BlockId) : Prop :=
  ∃ block, registry.get? id = some block ∧ block.name = name

/-- A block other than the root has some name. -/
def Carries (registry : Registry) (name : String) (id : BlockId) : Prop :=
  id ≠ .root ∧ registry.Named name id

/-- No two blocks have one name, the root apart. -/
def Distinct (registry : Registry) : Prop :=
  ∀ name left right, registry.Carries name left → registry.Carries name right → left = right

/-- Blocks were added behind those of a registry. -/
def Grows (registry later : Registry) : Prop :=
  registry.registered <+: later.registered

/-- What a name is resolved to: the first block that carries it, or a new block of unknown
location. -/
inductive Resolves (registry : Registry) (name : String) : Resolution → Prop where
  | known {id : BlockId} (first : id.IsFirst (registry.Carries name)) :
      Resolves registry name ⟨registry, id, false⟩
  | new (unknown : ∀ id, ¬registry.Carries name id) :
      Resolves registry name ⟨registry.register ⟨name, .unknown⟩, ⟨registry.size⟩, true⟩

theorem find?_eq_some_iff {registry : Registry} {name : String} {id : BlockId} :
    registry.find? name = some id ↔ id.IsFirst (registry.Named name) := by
  rw [find?, Option.map_eq_some_iff]
  constructor
  · rintro ⟨position, search, rfl⟩
    rcases findIdx?_name_eq_some_iff.mp search with ⟨named, least⟩
    exact ⟨named, fun other ⟨block, found, same⟩ => least other.index block found same⟩
  · rintro ⟨named, first⟩
    refine ⟨id.index, findIdx?_name_eq_some_iff.mpr ⟨named, ?_⟩, rfl⟩
    exact fun index block found same => first ⟨index⟩ ⟨block, found, same⟩

theorem nextId_ne_root (registry : Registry) : registry.nextId ≠ .root :=
  fun same => Nat.succ_ne_zero _ (congrArg BlockId.index same)

theorem isSome_get?_iff {registry : Registry} {id : BlockId} :
    (registry.get? id).isSome ↔ id.index < registry.size := by
  rw [get?, size, Option.isSome_iff_ne_none, ne_eq, List.getElem?_eq_none_iff, Nat.not_le]

theorem get?_registerAll (registry : Registry) (added : List Block) (position : Nat) :
    (registry.registerAll added).get? ⟨registry.size + position⟩ = added[position]? := by
  rw [get?, blocks, registerAll, ← List.cons_append]
  change (registry.blocks ++ added)[registry.blocks.length + position]? = added[position]?
  rw [List.getElem?_append_right (Nat.le_add_right ..), Nat.add_sub_cancel_left]

/-- The blocks that carry a name are those that were registered with it. -/
theorem carries_iff {registry : Registry} {name : String} {id : BlockId} :
    registry.Carries name id ↔ ∃ position block, id = ⟨position + 1⟩ ∧
      registry.registered[position]? = some block ∧ block.name = name := by
  rcases id with ⟨index⟩
  cases index with
  | zero => simp [Carries, BlockId.root]
  | succ position => simp [Carries, BlockId.root, Named, get?, blocks]

theorem Carries.lt_size {registry : Registry} {name : String} {id : BlockId}
    (carries : registry.Carries name id) : id.index < registry.size := by
  rcases carries.2 with ⟨block, found, _⟩
  rw [← isSome_get?_iff, found]
  rfl

theorem carries_register_iff {registry : Registry} {block : Block} {name : String}
    {id : BlockId} :
    (registry.register block).Carries name id ↔
      registry.Carries name id ∨ (id = registry.nextId ∧ block.name = name) := by
  constructor
  · intro carries
    rcases carries_iff.mp carries with ⟨position, other, rfl, found, named⟩
    rcases Nat.lt_trichotomy position registry.registered.length with inside | rfl | outside
    · rw [register, List.getElem?_append_left inside] at found
      exact .inl (carries_iff.mpr ⟨position, other, rfl, found, named⟩)
    · rw [register, List.getElem?_concat_length] at found
      cases found
      exact .inr ⟨rfl, named⟩
    · have inside := (List.getElem?_eq_some_iff.mp found).1
      rw [register, List.length_append, List.length_singleton] at inside
      omega
  · rintro (⟨notRoot, other, found, named⟩ | ⟨rfl, named⟩)
    · have issued := Carries.lt_size ⟨notRoot, other, found, named⟩
      exact ⟨notRoot, other, (get?_register_of_lt issued).trans found, named⟩
    · exact ⟨registry.nextId_ne_root, block, get?_register_nextId registry block, named⟩

theorem resolves_resolve (registry : Registry) (name : String) :
    registry.Resolves name (registry.resolve name) := by
  rw [resolve]
  cases search : registry.registered.findIdx? (·.name == name) with
  | some position =>
      rcases findIdx?_name_eq_some_iff.mp search with ⟨⟨block, found, named⟩, least⟩
      refine .known ⟨carries_iff.mpr ⟨position, block, rfl, found, named⟩, ?_⟩
      intro id carries
      rcases carries_iff.mp carries with ⟨other, otherBlock, rfl, otherFound, otherNamed⟩
      exact Nat.succ_le_succ (least other otherBlock otherFound otherNamed)
  | none =>
      refine .new ?_
      intro id carries
      rcases carries_iff.mp carries with ⟨position, block, rfl, found, named⟩
      have unnamed := List.findIdx?_eq_none_iff.mp search block (List.mem_of_getElem? found)
      rw [named, beq_self_eq_true] at unnamed
      cases unnamed

/-- A name that is carried by a block is resolved to the first such block. -/
theorem resolve_of_isFirst {registry : Registry} {name : String} {id : BlockId}
    (first : id.IsFirst (registry.Carries name)) :
    registry.resolve name = ⟨registry, id, false⟩ := by
  have resolved := registry.resolves_resolve name
  generalize registry.resolve name = resolution at resolved
  cases resolved with
  | known other => rw [other.unique first]
  | new unknown => exact absurd first.1 (unknown id)

namespace Resolves

variable {registry : Registry} {name : String} {resolution : Resolution}

/-- The root is passed over. -/
theorem id_ne_root (resolved : registry.Resolves name resolution) : resolution.id ≠ .root := by
  cases resolved with
  | known first => exact first.1.1
  | new unknown => exact registry.nextId_ne_root

theorem grows (resolved : registry.Resolves name resolution) :
    registry.Grows resolution.registry := by
  cases resolved with
  | known first => exact List.prefix_rfl
  | new unknown => exact List.prefix_append ..

/-- What a name was resolved to is the first block that carries it. -/
theorem isFirst (resolved : registry.Resolves name resolution) :
    resolution.id.IsFirst (resolution.registry.Carries name) := by
  cases resolved with
  | known first => exact first
  | new unknown =>
      refine ⟨carries_register_iff.mpr (.inr ⟨rfl, rfl⟩), ?_⟩
      intro other carries
      rcases carries_register_iff.mp carries with known | ⟨rfl, _⟩
      · exact absurd known (unknown other)
      · exact Nat.le_refl _

/-- A block is added only for a name that no block carries. -/
theorem distinct (resolved : registry.Resolves name resolution) (distinct : registry.Distinct) :
    resolution.registry.Distinct := by
  cases resolved with
  | known first => exact distinct
  | new unknown =>
      intro other left right leftCarries rightCarries
      rcases carries_register_iff.mp leftCarries with leftOld | ⟨rfl, leftName⟩ <;>
        rcases carries_register_iff.mp rightCarries with rightOld | ⟨rfl, rightName⟩
      · exact distinct other left right leftOld rightOld
      · cases rightName
        exact absurd leftOld (unknown left)
      · cases leftName
        exact absurd rightOld (unknown right)
      · rfl

end Resolves

namespace Grows

variable {registry middle later : Registry}

theorem trans (first : registry.Grows middle) (second : middle.Grows later) :
    registry.Grows later :=
  List.IsPrefix.trans first second

/-- An identifier that was issued stands for the same block ever after. -/
theorem get?_eq (grows : registry.Grows later) {id : BlockId} {block : Block}
    (issued : registry.get? id = some block) : later.get? id = some block := by
  have blocks : registry.blocks <+: later.blocks := List.cons_prefix_cons.mpr ⟨rfl, grows⟩
  rcases List.getElem?_eq_some_iff.mp issued with ⟨inside, rfl⟩
  exact List.prefix_iff_getElem?.mp blocks id.index inside

theorem carries (grows : registry.Grows later) {name : String} {id : BlockId}
    (carries : registry.Carries name id) : later.Carries name id := by
  rcases carries with ⟨notRoot, block, found, named⟩
  exact ⟨notRoot, block, grows.get?_eq found, named⟩

/-- Blocks that are added come after the first block that carries a name. -/
theorem isFirst (grows : registry.Grows later) {name : String} {id : BlockId}
    (first : id.IsFirst (registry.Carries name)) : id.IsFirst (later.Carries name) := by
  refine ⟨grows.carries first.1, ?_⟩
  rintro other ⟨notRoot, block, found, named⟩
  by_cases issued : other.index < registry.size
  · -- What stands at an old position now stood there before.
    rcases Option.isSome_iff_exists.mp (isSome_get?_iff.mpr issued) with ⟨earlier, known⟩
    cases (grows.get?_eq known).symm.trans found
    exact first.2 other ⟨notRoot, block, known, named⟩
  · exact Nat.le_trans (Nat.le_of_lt first.1.lt_size) (Nat.le_of_not_lt issued)

/-- A name that was resolved is resolved to the same block ever after. -/
theorem resolve_eq {name : String} {resolution : Resolution}
    (resolved : registry.Resolves name resolution) (grows : resolution.registry.Grows later) :
    later.resolve name = ⟨later, resolution.id, false⟩ :=
  resolve_of_isFirst (grows.isFirst resolved.isFirst)

end Grows

theorem not_carries_empty (name : String) (id : BlockId) : ¬empty.Carries name id := by
  intro carries
  rcases carries_iff.mp carries with ⟨position, block, _, found, _⟩
  cases found

theorem distinct_empty : empty.Distinct :=
  fun name left _ carries _ => absurd carries (not_carries_empty name left)

theorem grows_resolveAll (registry : Registry) (names : List String) :
    registry.Grows (Folded.resolveAll registry names).1 := by
  induction names generalizing registry with
  | nil => exact List.prefix_rfl
  | cons name rest ih => exact (registry.resolves_resolve name).grows.trans (ih _)

theorem Distinct.resolveAll {registry : Registry} (distinct : registry.Distinct)
    (names : List String) : (Folded.resolveAll registry names).1.Distinct := by
  induction names generalizing registry with
  | nil => exact distinct
  | cons name rest ih => exact ih ((registry.resolves_resolve name).distinct distinct)

theorem resolveAll_append (registry : Registry) (names more : List String) :
    (Folded.resolveAll registry (names ++ more)).1 =
      (Folded.resolveAll (Folded.resolveAll registry names).1 more).1 := by
  induction names generalizing registry with
  | nil => rfl
  | cons name rest ih => exact ih _

end Registry

end CallLedger

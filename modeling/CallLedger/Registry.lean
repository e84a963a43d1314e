import CallLedger.Block

/-!
# Block registry

The registry only grows: it issues identifiers one after another and never changes
what an issued identifier stands for.  The root is not stored, so block zero is the
root in every registry.
-/

namespace CallLedger

/-- Blocks registered so far, in order of registration. -/
structure Registry where
  registered : List Block
  deriving DecidableEq, Repr, Inhabited

/-- Answer to a request for the block of a frame name. -/
structure Resolution where
  registry : Registry
  id : BlockId
  isNew : Bool
  deriving DecidableEq, Repr

namespace Registry

/-- The registry that knows only the root. -/
def empty : Registry := ⟨[]⟩

/-- All blocks by identifier, the root first. -/
def blocks (registry : Registry) : List Block :=
  Block.root :: registry.registered

/-- Number of blocks, the root included. -/
def size (registry : Registry) : Nat :=
  registry.blocks.length

/-- Blocks with their identifiers, in order of identifier. -/
def entries (registry : Registry) : List (BlockId × Block) :=
  registry.blocks.zipIdx.map fun (block, index) => (⟨index⟩, block)

def nextId (registry : Registry) : BlockId := ⟨registry.size⟩

/-- Identifier issued most recently, the root's if there is none. -/
def lastId (registry : Registry) : BlockId := ⟨registry.registered.length⟩

/-- Add a block; it receives `nextId`. -/
def register (registry : Registry) (block : Block) : Registry :=
  ⟨registry.registered ++ [block]⟩

/-- Add several blocks; they receive consecutive identifiers from `nextId` on. -/
def registerAll (registry : Registry) (blocks : List Block) : Registry :=
  ⟨registry.registered ++ blocks⟩

def get? (registry : Registry) (id : BlockId) : Option Block :=
  registry.blocks[id.index]?

/-- Least identifier of a block with exactly this name, the root included. -/
def find? (registry : Registry) (name : String) : Option BlockId :=
  (registry.blocks.findIdx? (·.name == name)).map BlockId.mk

/-- Name of a block, or `?` for an identifier that was never issued. -/
def nameOf (registry : Registry) (id : BlockId) : String :=
  match registry.get? id with
  | some block => block.name
  | none => "?"

/-- Display form of a block's location, empty for an identifier never issued. -/
def locationOf (registry : Registry) (id : BlockId) : String :=
  match registry.get? id with
  | some block => block.location.display
  | none => ""

def label (registry : Registry) (id : BlockId) : String :=
  id.label (registry.nameOf id)

/-- Block of a frame name: the first registered block with exactly this name, or a
new block of unknown location.  The root is not searched, so a frame that is
named like the root gets a block of its own. -/
def resolve (registry : Registry) (name : String) : Resolution :=
  match registry.registered.findIdx? (·.name == name) with
  | some position => ⟨registry, ⟨position + 1⟩, false⟩
  | none => ⟨registry.register ⟨name, .unknown⟩, registry.nextId, true⟩

@[simp] theorem size_eq (registry : Registry) :
    registry.size = registry.registered.length + 1 := rfl

@[simp] theorem get?_root (registry : Registry) :
    registry.get? .root = some Block.root := rfl

/-- A registration does not change blocks that have been issued. -/
theorem get?_register_of_lt {registry : Registry} {block : Block} {id : BlockId}
    (issued : id.index < registry.size) :
    (registry.register block).get? id = registry.get? id := by
  simp only [get?, register, blocks]
  rw [← List.cons_append, List.getElem?_append_left (by simpa using issued)]

@[simp] theorem get?_register_nextId (registry : Registry) (block : Block) :
    (registry.register block).get? registry.nextId = some block := by
  simp [get?, register, blocks, nextId]

end Registry

end CallLedger

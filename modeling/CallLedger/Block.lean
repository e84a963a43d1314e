/-!
# Blocks

A block is a named, located unit of instrumented code.  Blocks are referred to by
dense identifiers; identifier zero is the root, which stands for everything that
happens outside a measured call.
-/

namespace CallLedger

/-- Dense identifier of a block. -/
structure BlockId where
  index : Nat
  deriving DecidableEq, Hashable, Repr, Inhabited

namespace BlockId

/-- The block outside of any measured call. -/
def root : BlockId := ⟨0⟩

def isRoot (id : BlockId) : Bool :=
  id == root

/-- Lower-case hexadecimal digits of an identifier, at least four of them. -/
def hex (id : BlockId) : List Char :=
  (Nat.toDigits 16 id.index).leftpad 4 '0'

/-- The form that a block of some name takes in reports: the name and, in brackets, the
hexadecimal identifier.  The bracket closes the text and holds no bracket itself, so
name and identifier can be told apart whatever the name contains. -/
def label (id : BlockId) (name : String) : String :=
  name ++ "[" ++ String.ofList id.hex ++ "]"

end BlockId

/-- A source location, used for display only. -/
structure Location where
  source : String
  line : Nat
  column : Nat
  deriving DecidableEq, Repr, Inhabited

namespace Location

/-- Location of the root. -/
def nowhere : Location := ⟨"", 0, 0⟩

/-- Location of blocks known by name only, such as names read from samples. -/
def unknown : Location := ⟨"???", 0, 0⟩

def display (location : Location) : String :=
  location.source ++ ":" ++ toString location.line ++ ":" ++ toString location.column

end Location

/-- A named, located unit of instrumented code. -/
structure Block where
  name : String
  location : Location
  deriving DecidableEq, Repr, Inhabited

def Block.root : Block := ⟨"<root>", .nowhere⟩

end CallLedger

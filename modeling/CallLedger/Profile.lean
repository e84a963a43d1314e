import CallLedger.CallGraph
import CallLedger.Violation

/-!
# Profiles

A profile collapses a call graph into statistics per block.  A block's count and
time are the totals over its callers; the root has no callers, so its count is one
and its time is what its own row and the unattributed time add up to.
-/

namespace CallLedger

/-- Statistics of one block: its own totals, its callers and its callees. -/
structure BlockProfile extends Call where
  /-- One record per calling block, by identifier. -/
  callers : List Call
  /-- One record per block called, in the order of the graph's row. -/
  callees : List Call
  deriving DecidableEq, Inhabited

namespace BlockProfile

/-- Time of a block that was not spent in calls to other blocks. -/
def selfTime (block : BlockProfile) : Count :=
  block.time - Count.sum ((block.callees.filter (·.id != block.id)).map Call.time)

def caller? (block : BlockProfile) (id : BlockId) : Option Call :=
  block.callers.find? (·.id == id)

def callee? (block : BlockProfile) (id : BlockId) : Option Call :=
  block.callees.find? (·.id == id)

/-- Add the calls from one more block. -/
def addCaller (block : BlockProfile) (call : Call) : BlockProfile :=
  { block with
    count := block.count + call.count
    time := block.time + call.time
    callers := block.callers ++ [call] }

end BlockProfile

/-- Statistics of all blocks of a graph. -/
structure Profile where
  root : BlockProfile
  /-- The blocks after the root, by identifier. -/
  others : List BlockProfile
  deriving DecidableEq, Inhabited

namespace Profile

/-- Statistics by identifier, the root first. -/
def blocks (profile : Profile) : List BlockProfile :=
  profile.root :: profile.others

def size (profile : Profile) : Nat :=
  profile.blocks.length

def get? (profile : Profile) (id : BlockId) : Option BlockProfile :=
  profile.blocks[id.index]?

/-- Statistics of a block that has to exist. -/
def get (profile : Profile) (id : BlockId) : Except Violation BlockProfile :=
  match profile.get? id with
  | some block => .ok block
  | none => .error (.noSuchBlock profile.size id.index)

/-- Total measured time of the run. -/
def totalTime (profile : Profile) : Count :=
  profile.root.time

/-- Number of blocks that ran at least once; the root always counts. -/
def covered (profile : Profile) : Nat :=
  (profile.blocks.filter (0 < ·.count)).length

/-- The blocks of a graph with their callees, before any caller is known. -/
def uncalled (graph : CallGraph) : Array BlockProfile :=
  graph.rows.mapIdx fun index row =>
    { id := ⟨index⟩, count := 0, time := 0, callers := [], callees := row }

/-- Note one call at the block that was called, which has to be there. -/
def addCall (blocks : Array BlockProfile) (entry : BlockId × Call) :
    Except Violation (Array BlockProfile) :=
  if entry.2.id.index < blocks.size then
    -- Among the callers the call stands under the block that made it.
    .ok (blocks.modify entry.2.id.index (·.addCaller { entry.2 with id := entry.1 }))
  else
    .error (.noSuchBlock blocks.size entry.2.id.index)

/-- The root's statistics, which are fixed by its own row. -/
def rootOf (graph : CallGraph) : BlockProfile where
  id := .root
  count := 1
  time := ((graph.row .root).map Call.time).foldl (· + ·) graph.unattributed
  callers := []
  callees := graph.row .root

/-- Collapse a graph in one pass over its edges. -/
def ofGraph (graph : CallGraph) : Except Violation Profile := do
  let blocks ← graph.calls.foldlM addCall (uncalled graph)
  return { root := rootOf graph, others := blocks.toList.tail }

/-- Collapse a graph, which has to have a row for every block of the registry. -/
def compute (graph : CallGraph) (registry : Registry) : Except Violation Profile :=
  if registry.size ≤ graph.size then
    ofGraph graph
  else
    .error (.uncoveredBlocks graph.size registry.size)

end Profile

end CallLedger

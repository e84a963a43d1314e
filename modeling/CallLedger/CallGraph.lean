import CallLedger.Count
import CallLedger.Registry

/-!
# Call graphs

A call graph has a row for every block, and a row holds at most one call record per
destination, in the order in which the destinations were first seen.  Counts and
times accumulate with saturation.
-/

namespace CallLedger

/-- Accumulated calls to or from the block `id`: inside a row the block called,
inside a list of callers the calling block. -/
structure Call where
  id : BlockId
  count : Count
  time : Count
  deriving DecidableEq, Inhabited

/-- A pair of blocks, the first calling the second. -/
structure Edge where
  caller : BlockId
  callee : BlockId
  deriving DecidableEq, Hashable, Repr, Inhabited

/-- Outgoing calls of one block. -/
abbrev Row := List Call

/-- Add to the record of a destination, opening one at the end of the row if the
destination has not been seen before. -/
def Row.record (callee : BlockId) (count time : Count) : Row → Row
  | [] => [⟨callee, count, time⟩]
  | call :: rest =>
      if call.id = callee then
        { call with count := call.count + count, time := call.time + time } :: rest
      else
        call :: Row.record callee count time rest

/-- Rows by calling block, and the time that belongs to no call. -/
structure CallGraph where
  rows : Array Row
  unattributed : Count
  deriving DecidableEq, Inhabited

namespace CallGraph

/-- A graph without calls, with at least the row of the root. -/
def ofSize (size : Nat) : CallGraph :=
  ⟨Array.replicate (max size 1) [], 0⟩

/-- A graph with one row per block of a registry. -/
def ofRegistry (registry : Registry) : CallGraph :=
  ofSize registry.size

def size (graph : CallGraph) : Nat :=
  graph.rows.size

/-- Add empty rows up to the row of `id`. -/
def ensureRow (graph : CallGraph) (id : BlockId) : CallGraph :=
  if id.index < graph.size then
    graph
  else
    { graph with
      rows := graph.rows ++ Array.replicate (id.index + 1 - graph.size) [] }

/-- Add empty rows for every block of a registry. -/
def track (graph : CallGraph) (registry : Registry) : CallGraph :=
  graph.ensureRow registry.lastId

/-- Add to the record of an edge, growing the graph to hold both ends. -/
def record (graph : CallGraph) (edge : Edge) (count time : Count) : CallGraph :=
  match graph.ensureRow ⟨max edge.caller.index edge.callee.index⟩ with
  | ⟨rows, unattributed⟩ =>
      ⟨rows.modify edge.caller.index (Row.record edge.callee count time), unattributed⟩

def recordUnattributed (graph : CallGraph) (time : Count) : CallGraph :=
  { graph with unattributed := graph.unattributed + time }

/-- Outgoing calls of a block; none for a block beyond the graph. -/
def row (graph : CallGraph) (caller : BlockId) : Row :=
  graph.rows[caller.index]?.getD []

def call? (graph : CallGraph) (edge : Edge) : Option Call :=
  (graph.row edge.caller).find? (·.id == edge.callee)

/-- All records with their calling blocks, by calling block and then in row
order. -/
def calls (graph : CallGraph) : List (BlockId × Call) :=
  graph.rows.toList.zipIdx.flatMap fun (row, index) => row.map (⟨index⟩, ·)

/-- Records whose destination is `callee`, with their calling blocks. -/
def callersOf (graph : CallGraph) (callee : BlockId) : List (BlockId × Call) :=
  graph.calls.filter (·.2.id == callee)

def edgeCount (graph : CallGraph) : Nat :=
  graph.calls.length

/-- Add to several edges in turn. -/
def recordAll (graph : CallGraph) (edges : Array Edge) (count time : Count) : CallGraph :=
  edges.foldl (fun graph edge => graph.record edge count time) graph

@[simp] theorem size_ensureRow (graph : CallGraph) (id : BlockId) :
    (graph.ensureRow id).size = max graph.size (id.index + 1) := by
  unfold ensureRow
  split <;> simp [size] at * <;> omega

@[simp] theorem row_ensureRow (graph : CallGraph) (id caller : BlockId) :
    (graph.ensureRow id).row caller = graph.row caller := by
  unfold ensureRow
  split
  · rfl
  · simp only [row, Array.getElem?_append, Array.getElem?_replicate]
    split
    · rfl
    · next outside =>
        rw [Array.getElem?_eq_none (Nat.le_of_not_lt outside)]
        split <;> rfl

@[simp] theorem size_record (graph : CallGraph) (edge : Edge) (count time : Count) :
    (graph.record edge count time).size =
      max graph.size (max edge.caller.index edge.callee.index + 1) := by
  have grown := size_ensureRow graph ⟨max edge.caller.index edge.callee.index⟩
  simpa [record, size] using grown

/-- Recording an edge changes the row of its caller and no other. -/
theorem row_record (graph : CallGraph) (edge : Edge) (count time : Count)
    (caller : BlockId) :
    (graph.record edge count time).row caller =
      if caller = edge.caller then
        Row.record edge.callee count time (graph.row caller)
      else graph.row caller := by
  have grown := size_ensureRow graph ⟨max edge.caller.index edge.callee.index⟩
  have same := row_ensureRow graph ⟨max edge.caller.index edge.callee.index⟩ caller
  simp only [record]
  generalize graph.ensureRow ⟨max edge.caller.index edge.callee.index⟩ = wide at *
  rw [← same]
  simp only [row, Array.getElem?_modify]
  by_cases equal : caller = edge.caller
  · subst equal
    have inside : edge.caller.index < wide.rows.size := by
      simp only [size] at grown
      omega
    simp [inside]
  · have other : edge.caller.index ≠ caller.index := fun indexEq =>
      equal (by cases caller; cases edge with | mk source => cases source; simp_all)
    simp [equal, other]

end CallGraph

end CallLedger

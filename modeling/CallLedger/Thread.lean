import Std.Data.HashMap
import CallLedger.CallGraph
import CallLedger.Violation

/-!
# Profile threads

A thread follows the call stack of one execution context and charges a call graph
that it shares with other threads.  Entering a block counts a call; a sample
charges every edge that is running.

The *active path* holds the distinct edges that are running, oldest first.  An edge
that is entered again while it runs is not added a second time, so one sample
charges it once.  Every frame remembers how many edges it added, and leaving the
frame drops that many.  A tail call reuses the frame of its caller, so the edges of
the replaced call stay active until the replacement returns.

Whether an edge is running is looked up in a table of positions.  An entry of the
table may be out of date; it is believed only if the active path still has the edge
at that position.
-/

namespace CallLedger

/-- One entry of a call stack. -/
structure Frame where
  block : BlockId
  /-- How many active edges end with this frame. -/
  ends : Nat
  deriving DecidableEq, Repr, Inhabited

/-- The frame below every call. -/
def Frame.root : Frame := ⟨.root, 0⟩

/-- Call-stack tracker of one execution context. -/
structure Thread where
  /-- The innermost frame. -/
  top : Frame
  /-- The frames under the innermost one, from the inside out. -/
  below : List Frame
  /-- The distinct edges that are running, oldest first. -/
  active : Array Edge
  /-- Where in `active` each edge was last added. -/
  slots : Std.HashMap Edge Nat
  /-- Whether the next call replaces the current one. -/
  tailPending : Bool
  /-- Stack depth at creation; frames up to there belong to a parent thread. -/
  inherited : Nat
  deriving Inhabited

namespace Thread

/-- A thread outside of any call. -/
def start : Thread where
  top := .root
  below := []
  active := #[]
  slots := {}
  tailPending := false
  inherited := 1

/-- All frames, from the inside out. -/
def frames (thread : Thread) : List Frame :=
  thread.top :: thread.below

/-- Stack depth, the root frame included. -/
def depth (thread : Thread) : Nat :=
  thread.frames.length

/-- The block that is executing, the root outside of any call. -/
def current (thread : Thread) : BlockId :=
  thread.top.block

/-- Blocks on the call stack, the root first. -/
def stack (thread : Thread) : List BlockId :=
  (thread.frames.map Frame.block).reverse

/-- A second thread that continues from the current call stack.  A tail call that
is pending stays with the first thread. -/
def fork (thread : Thread) : Thread :=
  { thread with tailPending := false, inherited := thread.depth }

/-- Whether the active path holds an edge, according to the table of positions. -/
def isRunning (thread : Thread) (edge : Edge) : Bool :=
  -- A slot outlives its edge, so the path may hold another edge there by now, or none.
  match thread.slots[edge]? with
  | some position => thread.active[position]? == some edge
  | none => false

/-- Put a block on the stack, in place of the current one if a tail call is
pending. -/
def push (thread : Thread) (callee : BlockId) : Thread :=
  if thread.tailPending then
    -- The frame keeps its count, so that one return ends the edges of both calls.
    { thread with
      tailPending := false
      top := { thread.top with block := callee } }
  else
    { thread with
      top := ⟨callee, 0⟩
      below := thread.top :: thread.below }

/-- Make an edge active on behalf of the innermost frame, unless it is running. -/
def activate (thread : Thread) (edge : Edge) : Thread :=
  if thread.isRunning edge then
    thread
  else
    { thread with
      top := { thread.top with ends := thread.top.ends + 1 }
      active := thread.active.push edge
      slots := thread.slots.insert edge thread.active.size }

def edgeTo (thread : Thread) (callee : BlockId) : Edge :=
  ⟨thread.current, callee⟩

def enter (thread : Thread) (callee : BlockId) : Thread :=
  let edge := thread.edgeTo callee
  (thread.push callee).activate edge

/-- Make the next call replace the current one. -/
def markTail (thread : Thread) : Except Violation Thread :=
  match thread.below with
  | [] => .error .tailCallAtRoot
  | _ :: _ => .ok { thread with tailPending := true }

/-- Return from the current call and from the calls that it replaced. -/
def exit (thread : Thread) : Except Violation Thread :=
  match thread.below with
  | [] => .error .exitAtRoot
  | caller :: rest =>
      .ok { thread with
        top := caller
        below := rest
        active := thread.active.shrink (thread.active.size - thread.top.ends)
        tailPending := false }

/-- How many frames lie above the ones that were inherited. -/
def openCalls (thread : Thread) : Nat :=
  thread.depth - thread.inherited

/-- End a thread; all its calls have to be closed. -/
def close (thread : Thread) : Except Violation Unit :=
  if thread.openCalls = 0 then .ok () else .error (.openCalls thread.openCalls)

end Thread

/-- A thread together with the call graph that it charges. -/
structure Tracked where
  thread : Thread
  graph : CallGraph
  deriving Inhabited

namespace Tracked

/-- Enter a call and count it. -/
def enter : Tracked → BlockId → Tracked
  | ⟨thread, graph⟩, callee =>
      let edge := thread.edgeTo callee
      ⟨thread.enter callee, graph.record edge 1 0⟩

/-- Enter several calls, each from inside the one before. -/
def enterAll (tracked : Tracked) (callees : List BlockId) : Tracked :=
  callees.foldl enter tracked

def exit : Tracked → Except Violation Tracked
  | ⟨thread, graph⟩ => thread.exit.map (⟨·, graph⟩)

def exitTimes (tracked : Tracked) : Nat → Except Violation Tracked
  | 0 => .ok tracked
  | count + 1 => do
      let outer ← tracked.exit
      outer.exitTimes count

/-- Charge an amount of time to every running edge, or to no call if there is
none. -/
def sample (tracked : Tracked) (time : Count) : Tracked :=
  { tracked with
    graph :=
      if tracked.thread.active.isEmpty then
        tracked.graph.recordUnattributed time
      else
        tracked.graph.recordAll tracked.thread.active 0 time }

end Tracked

/-- What an execution context tells its thread. -/
inductive Operation where
  /-- A call was entered. -/
  | enter (callee : BlockId)
  /-- The next call replaces the current one. -/
  | markTail
  /-- The current call was replaced by a tail call. -/
  | tailCall (callee : BlockId)
  /-- The current call returned. -/
  | exit
  /-- Time passed in the current call. -/
  | sample (time : Count)
  deriving DecidableEq

def Tracked.apply (tracked : Tracked) : Operation → Except Violation Tracked
  | .enter callee => .ok (tracked.enter callee)
  | .markTail => tracked.thread.markTail.map ({ tracked with thread := · })
  | .tailCall callee =>
      tracked.thread.markTail.map fun marked =>
        Tracked.enter { tracked with thread := marked } callee
  | .exit => tracked.exit
  | .sample time => .ok (tracked.sample time)

end CallLedger

import CallLedger.Proofs.Thread.Activity

/-!
# The path of the calls in progress

Every call is made from the block that the call before it went to, and a return takes back
the newest calls.  The calls in progress of a thread are therefore the calls along one path
of blocks, from the root to the block that is executing: also where tail calls put several
calls on one frame, where the path comes back to a block that it passed before, and where
the thread was forked in the middle of another.
-/

namespace CallLedger

/-- The calls along a path from some block on. -/
def callsAlong (caller : BlockId) : List BlockId → List Edge
  | [] => []
  | callee :: rest => ⟨caller, callee⟩ :: callsAlong callee rest

theorem callsAlong_concat (caller : BlockId) (path : List BlockId) (last : BlockId) :
    callsAlong caller (path ++ [last]) =
      callsAlong caller path ++ [⟨path.getLastD caller, last⟩] := by
  induction path generalizing caller with
  | nil => rfl
  | cons callee rest ih =>
      rw [List.cons_append, callsAlong, ih, callsAlong, List.cons_append, List.getLastD_cons]

theorem map_callee_callsAlong (caller : BlockId) (path : List BlockId) :
    (callsAlong caller path).map Edge.callee = path := by
  induction path generalizing caller with
  | nil => rfl
  | cons callee rest ih => rw [callsAlong, List.map_cons, ih]

theorem mem_callsAlong {caller : BlockId} {path : List BlockId} {call : Edge}
    (member : call ∈ callsAlong caller path) :
    (call.caller = caller ∨ call.caller ∈ path) ∧ call.callee ∈ path := by
  induction path generalizing caller with
  | nil => cases member
  | cons callee rest ih =>
      rcases List.mem_cons.mp member with rfl | later
      · exact ⟨.inl rfl, List.mem_cons_self⟩
      · rcases ih later with ⟨callerIn, calleeIn⟩
        exact ⟨.inr (List.mem_cons.mpr callerIn), List.mem_cons_of_mem _ calleeIn⟩

/-- A call that does not leave the start of a path follows another call of the path. -/
theorem exists_call_before {caller : BlockId} {path : List BlockId} {call : Edge}
    (member : call ∈ callsAlong caller path) (inner : call.caller ≠ caller) :
    ∃ before ∈ callsAlong caller path, before.callee = call.caller := by
  have onPath : call.caller ∈ (callsAlong caller path).map Edge.callee := by
    rw [map_callee_callsAlong]
    exact (mem_callsAlong member).1.resolve_left inner
  exact List.mem_map.mp onPath

/-- A path that does not come back to its start leaves it by its first call alone. -/
theorem filter_leaving_callsAlong {caller first : BlockId} {rest : List BlockId}
    (noReturn : caller ∉ first :: rest) :
    (callsAlong caller (first :: rest)).filter (·.caller = caller) = [⟨caller, first⟩] := by
  have others : (callsAlong first rest).filter (·.caller = caller) = [] := by
    rw [List.filter_eq_nil_iff]
    intro call member leaves
    have same : call.caller = caller := by simpa using leaves
    have onPath := List.mem_cons.mpr (mem_callsAlong member).1
    exact noReturn (same ▸ onPath)
  rw [callsAlong, List.filter_cons_of_pos (by simp), others]

/-- Every frame executes the block at the end of the path that the calls up to it take. -/
inductive FrameHistory.Connected : List FrameHistory → Prop where
  | nil : Connected []
  | cons {frame : FrameHistory} {outer : List FrameHistory} (path : List BlockId)
      (calls_eq : allCalls (frame :: outer) = callsAlong .root path)
      (block_eq : frame.block = path.getLastD .root)
      (below : Connected outer) : Connected (frame :: outer)

namespace ThreadHistory

/-- The calls in progress lead along a path to the block that is executing. -/
def Connected (history : ThreadHistory) : Prop :=
  FrameHistory.Connected history.frames

namespace Connected

variable {history : ThreadHistory}

theorem start : ThreadHistory.start.Connected :=
  .cons [] rfl rfl .nil

theorem fork (connected : history.Connected) : history.fork.Connected :=
  connected

theorem path (connected : history.Connected) :
    ∃ path, history.inProgress = callsAlong .root path ∧
      history.current = path.getLastD .root := by
  cases connected with
  | cons path calls_eq block_eq _ => exact ⟨path, calls_eq, block_eq⟩

theorem enter (connected : history.Connected) (callee : BlockId) :
    (history.enter callee).Connected := by
  rcases connected.path with ⟨path, calls_eq, block_eq⟩
  have below : FrameHistory.Connected (history.enter callee).below := by
    rw [ThreadHistory.enter, push]
    split
    next =>
      cases connected with
      | cons _ _ _ outer => exact outer
    next => exact connected
  refine .cons (path ++ [callee]) ?_ ?_ below
  · have extended := inProgress_enter history callee
    rw [calls_eq, block_eq, ← callsAlong_concat] at extended
    exact extended
  · rw [List.getLastD_concat]
    exact current_enter history callee

theorem exit (connected : history.Connected) : history.exit.Connected := by
  rcases history with ⟨top, below, pending, inherited⟩
  cases below with
  | nil => exact connected
  | cons caller rest =>
      cases connected with
      | cons _ _ _ outer => exact outer

/-- No operation breaks the path. -/
theorem after (connected : history.Connected) (operation : Operation) :
    (history.after operation).Connected := by
  cases operation with
  | enter callee => exact connected.enter callee
  | markTail =>
      rw [ThreadHistory.after]
      split
      · exact connected
      · exact connected
  | tailCall callee =>
      rw [ThreadHistory.after]
      split
      · exact connected
      · have marked : history.markTail.Connected := connected
        exact marked.enter callee
  | exit => exact connected.exit
  | sample time => exact connected

end Connected

end ThreadHistory

/-- A sample finds the calls along a path in progress. -/
def Activity.AlongPath : Activity → Prop
  | entered _ => True
  | sampled inProgress _ => ∃ path, inProgress = callsAlong .root path

theorem ThreadHistory.Connected.alongPath {history : ThreadHistory}
    (connected : history.Connected) {operation : Operation} {activity : Activity}
    (reported : activity ∈ history.activity operation) : activity.AlongPath := by
  cases operation with
  | enter callee =>
      cases List.mem_singleton.mp reported
      trivial
  | tailCall callee =>
      rw [ThreadHistory.activity] at reported
      split at reported
      · cases reported
      · cases List.mem_singleton.mp reported
        trivial
  | sample time =>
      cases List.mem_singleton.mp reported
      rcases connected.path with ⟨path, calls_eq, _⟩
      exact ⟨path, calls_eq⟩
  | markTail | exit => cases reported

end CallLedger

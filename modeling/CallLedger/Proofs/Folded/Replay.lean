import CallLedger.Folded.Ingest
import CallLedger.Proofs.Thread.Path
import CallLedger.Proofs.Thread.Reachable

/-!
# Replay of one path

A path is replayed by entering its blocks, sampling once and leaving them again.  What is
reported in between are the calls along the path, from the current block on, and one sample
with these calls added to those in progress.  Afterwards a thread is where it was before,
unless a tail call was pending: the first block of the path then takes the place of the
current one, and the last return gives up the frame of both.
-/

namespace CallLedger

/-- What is reported while a path is replayed. -/
def Activity.ofPath (path : List BlockId) (count : Count) : List Activity :=
  (callsAlong .root path).map .entered ++ [.sampled (callsAlong .root path) count]

namespace Activity

variable (path : List BlockId) (count : Count)

theorem calls_ofPath : calls (ofPath path count) = callsAlong .root path := by
  have entered : calls ((callsAlong .root path).map .entered) = callsAlong .root path := by
    rw [calls, List.filterMap_map]
    exact List.filterMap_some
  rw [ofPath, calls_append, entered]
  exact List.append_nil _

variable {path count}

/-- The calls of a path are made before they are sampled. -/
theorem Grounded.append_ofPath {log : List Activity} (grounded : Grounded log) :
    Grounded (log ++ ofPath path count) := by
  have entered : ∀ made : List Edge, Grounded (log ++ made.map .entered) := by
    intro made
    induction made using List.reverseRecOn with
    | nil =>
        rw [List.map_nil, List.append_nil]
        exact grounded
    | append_singleton made last ih =>
        rw [List.map_append, ← List.append_assoc]
        exact .entered ih last
  rw [ofPath, ← List.append_assoc]
  apply Grounded.sampled (entered _)
  intro edge running
  have listed : Activity.entered edge ∈ log ++ (callsAlong .root path).map .entered :=
    List.mem_append_right _ (List.mem_map_of_mem running)
  exact List.mem_filterMap.mpr ⟨_, listed, rfl⟩

end Activity

namespace ThreadHistory

/-- A thread that entered the blocks of a path, each from inside the one before. -/
def enterAll (history : ThreadHistory) (path : List BlockId) : ThreadHistory :=
  path.foldl enter history

/-- A thread that returned from several calls, innermost first. -/
def exitTimes (history : ThreadHistory) : Nat → ThreadHistory
  | 0 => history
  | count + 1 => history.exit.exitTimes count

/-- A thread that replayed a path.  In place of a pending tail call the first block shares the
frame of the current one, and the last return gives up both. -/
def replay (history : ThreadHistory) (path : List BlockId) : ThreadHistory :=
  if history.tailPending = true ∧ path ≠ [] then history.exit else history

/-- What a thread reports while it replays a path. -/
def replayed (history : ThreadHistory) (path : List BlockId) (count : Count) :
    List Activity :=
  (callsAlong history.current path).map .entered ++
    [.sampled (history.inProgress ++ callsAlong history.current path) count]

theorem replayed_start (path : List BlockId) (count : Count) :
    start.replayed path count = Activity.ofPath path count :=
  rfl

variable {history : ThreadHistory}

theorem enterAll_concat (history : ThreadHistory) (path : List BlockId) (last : BlockId) :
    history.enterAll (path ++ [last]) = (history.enterAll path).enter last := by
  simp [enterAll]

theorem current_enterAll (history : ThreadHistory) (path : List BlockId) :
    (history.enterAll path).current = path.getLastD history.current := by
  induction path using List.reverseRecOn with
  | nil => rfl
  | append_singleton path last _ =>
      rw [enterAll_concat, current_enter, List.getLastD_concat]

theorem inProgress_enterAll (history : ThreadHistory) (path : List BlockId) :
    (history.enterAll path).inProgress =
      history.inProgress ++ callsAlong history.current path := by
  induction path using List.reverseRecOn with
  | nil => exact (List.append_nil _).symm
  | append_singleton path last ih =>
      rw [enterAll_concat, inProgress_enter, ih, current_enterAll, callsAlong_concat,
        List.append_assoc]

theorem tailPending_enterAll (settled : history.tailPending = false) (path : List BlockId) :
    (history.enterAll path).tailPending = false := by
  induction path using List.reverseRecOn with
  | nil => exact settled
  | append_singleton path last _ => rw [enterAll_concat, tailPending_enter]

theorem length_below_enterAll (settled : history.tailPending = false) (path : List BlockId) :
    (history.enterAll path).below.length = history.below.length + path.length := by
  induction path using List.reverseRecOn with
  | nil => rfl
  | append_singleton path last ih =>
      rw [enterAll_concat, below_enter (tailPending_enterAll settled path), frames,
        List.length_cons, ih, List.length_append, List.length_singleton, Nat.add_assoc]

theorem exitTimes_succ (history : ThreadHistory) (count : Nat) :
    history.exitTimes (count + 1) = (history.exitTimes count).exit := by
  induction count generalizing history with
  | zero => rfl
  | succ count ih => exact ih history.exit

/-- Unless a tail call is pending, the returns undo the calls. -/
theorem exitTimes_enterAll (settled : history.tailPending = false) (path : List BlockId) :
    (history.enterAll path).exitTimes path.length = history := by
  induction path using List.reverseRecOn with
  | nil => rfl
  | append_singleton path last ih =>
      rw [enterAll_concat, List.length_append, List.length_singleton, exitTimes,
        exit_enter (tailPending_enterAll settled path), ih]

/-- A call in place of another is returned from together with that one. -/
theorem exit_enter_of_pending (pending : history.tailPending = true)
    (called : history.below ≠ []) (callee : BlockId) :
    (history.enter callee).exit = history.exit := by
  rcases history with ⟨top, below, tailPending, inherited⟩
  cases pending
  cases below with
  | nil => exact absurd rfl called
  | cons caller rest => rfl

theorem replay_nil (history : ThreadHistory) : history.replay [] = history :=
  if_neg fun both => both.2 rfl

theorem replay_of_settled (settled : history.tailPending = false) (path : List BlockId) :
    history.replay path = history := by
  rw [replay, settled]
  exact if_neg fun both => Bool.false_ne_true both.1

theorem replay_of_pending (pending : history.tailPending = true) {path : List BlockId}
    (nonempty : path ≠ []) : history.replay path = history.exit :=
  if_pos ⟨pending, nonempty⟩

/-- As many returns as calls make a replay, and there is a frame for every return. -/
theorem exitTimes_length (inside : history.TailInside) (path : List BlockId) :
    (history.enterAll path).exitTimes path.length = history.replay path ∧
      path.length ≤ (history.enterAll path).below.length := by
  cases pending : history.tailPending with
  | false =>
      constructor
      · rw [exitTimes_enterAll pending, replay_of_settled pending]
      · rw [length_below_enterAll pending]
        exact Nat.le_add_left ..
  | true =>
      cases path with
      | nil => exact ⟨(replay_nil history).symm, Nat.zero_le _⟩
      | cons first rest =>
          -- The first call settles the thread, and no frame was added for it.
          have settled := tailPending_enter history first
          have below_eq : (history.enter first).below = history.below := by
            rw [enter, push, if_pos pending]
            rfl
          have entered : history.enterAll (first :: rest) =
              (history.enter first).enterAll rest := rfl
          rw [entered, List.length_cons]
          constructor
          · rw [exitTimes_succ, exitTimes_enterAll settled,
              exit_enter_of_pending pending (inside pending),
              replay_of_pending pending (List.cons_ne_nil first rest)]
          · rw [length_below_enterAll settled, below_eq, Nat.add_comm]
            have called := List.length_pos_iff.mpr (inside pending)
            exact Nat.add_le_add_right called _

/-- A pending tail call is used up by the first path that is not empty. -/
theorem replay_replay (inside : history.TailInside) (first second : List BlockId) :
    (history.replay first).replay second = history.replay (first ++ second) := by
  cases pending : history.tailPending with
  | false => simp only [replay_of_settled pending]
  | true =>
      cases first with
      | nil => rw [replay_nil, List.nil_append]
      | cons callee rest =>
          have settled := tailPending_exit (inside pending)
          rw [replay_of_pending pending (List.cons_ne_nil callee rest),
            replay_of_settled settled, List.cons_append,
            replay_of_pending pending (List.cons_ne_nil callee (rest ++ second))]

theorem TailInside.replay (inside : history.TailInside) (path : List BlockId) :
    (history.replay path).TailInside := by
  rw [ThreadHistory.replay]
  split
  · exact inside.after .exit
  · exact inside

end ThreadHistory

variable {thread : Thread} {history : ThreadHistory}

/-- Entering a path counts the calls along it. -/
theorem Tracked.enterAll_follows (follows : thread.Follows history) (graph : CallGraph)
    (path : List BlockId) :
    ∃ deep, Tracked.enterAll ⟨thread, graph⟩ path =
        ⟨deep, graph.updateAll
          (((callsAlong history.current path).map Activity.entered).flatMap
            Activity.requests)⟩ ∧
      deep.Follows (history.enterAll path) := by
  induction path using List.reverseRecOn with
  | nil => exact ⟨thread, rfl, follows⟩
  | append_singleton path last ih =>
      rcases ih with ⟨deep, entered, deepFollows⟩
      refine ⟨deep.enter last, ?_, ?_⟩
      · have edge_eq : deep.edgeTo last = ⟨path.getLastD history.current, last⟩ := by
          rw [Thread.edgeTo, deepFollows.current_eq, ThreadHistory.current_enterAll]
        have last_entered : Tracked.enterAll ⟨thread, graph⟩ (path ++ [last]) =
            (Tracked.enterAll ⟨thread, graph⟩ path).enter last := by
          rw [enterAll, List.foldl_append]
          rfl
        rw [last_entered, entered, enter, edge_eq, callsAlong_concat, List.map_append,
          List.flatMap_append, CallGraph.updateAll_append]
        rfl
      · rw [ThreadHistory.enterAll_concat]
        exact deepFollows.enter last

/-- Returns succeed as long as there are frames to give up. -/
theorem Tracked.exitTimes_follows (follows : thread.Follows history) (graph : CallGraph)
    {count : Nat} (enough : count ≤ history.below.length) :
    ∃ left, Tracked.exitTimes ⟨thread, graph⟩ count = .ok ⟨left, graph⟩ ∧
      left.Follows (history.exitTimes count) := by
  induction count generalizing thread history with
  | zero => exact ⟨thread, rfl, follows⟩
  | succ count ih =>
      cases returned : thread.exit with
      | error violation =>
          have outside := Thread.exit_refused_iff.mp ⟨violation, returned⟩
          rw [follows.below_eq_nil.mp outside] at enough
          cases enough
      | ok next =>
          have length_exit : history.exit.below.length = history.below.length - 1 := by
            rw [ThreadHistory.exit]
            cases below : history.below with
            | nil => rw [below]; rfl
            | cons caller rest => rfl
          rcases ih (follows.exit returned) (by omega) with ⟨left, exited, leftFollows⟩
          refine ⟨left, ?_, leftFollows⟩
          rw [exitTimes, exit, returned]
          exact exited

/-- **Replaying a path** succeeds on every thread and reports the calls along the path and one
sample. -/
theorem Folded.State.replay_follows (follows : thread.Follows history)
    (inside : history.TailInside) (graph : CallGraph) (path : List BlockId) (count : Count) :
    ∃ left, State.replay ⟨thread, graph⟩ path count =
        (⟨left, graph.updateAll ((history.replayed path count).flatMap Activity.requests)⟩,
          .ok ()) ∧
      left.Follows (history.replay path) := by
  rcases ThreadHistory.exitTimes_length inside path with ⟨balanced, enough⟩
  rcases Tracked.enterAll_follows follows graph path with ⟨deep, entered, deepFollows⟩
  obtain ⟨left, exited, leftFollows⟩ := Tracked.exitTimes_follows deepFollows
    (graph.updateAll ((history.replayed path count).flatMap Activity.requests)) enough
  have sampled : (Tracked.enterAll ⟨thread, graph⟩ path).sample count =
      ⟨deep, graph.updateAll
        ((history.replayed path count).flatMap Activity.requests)⟩ := by
    rw [entered, Tracked.sample_eq, deepFollows.requests_eq, ThreadHistory.activity,
      ThreadHistory.inProgress_enterAll, ThreadHistory.replayed, List.flatMap_append,
      CallGraph.updateAll_append]
  rw [balanced] at leftFollows
  refine ⟨left, ?_, leftFollows⟩
  simp only [replay, sampled, exited]

end CallLedger

import CallLedger.Proofs.Graph.EdgeMap
import CallLedger.Proofs.Run.Bracket
import CallLedger.Proofs.Thread.Table
import CallLedger.Proofs.Thread.TailCalls

/-!
# What threads keep is bounded

A thread keeps its active edges and a table of positions, and it never takes an edge out of the
table.  Still both are bounded by the graph: whatever edge is in them was entered, by the thread
itself or by one that it was forked from, and so is counted in the graph that they share.  Edges
do not go away from a graph and their counts do not fall, so this survives whatever the other
threads do.
-/

namespace CallLedger

open Session (ThreadId)

namespace Count

theorem le_trans {first second third : Count} (left : first ≤ second) (right : second ≤ third) :
    first ≤ third :=
  Nat.le_trans left right

theorem le_add_right (count more : Count) : count ≤ count + more := by
  have le_limit := count.value_le
  simp only [le_iff, value_add]
  omega

theorem le_add_left (count more : Count) : count ≤ more + count := by
  rw [Count.add_comm]
  exact le_add_right count more

end Count

namespace CallGraph

/-- An edge was entered: it is in the graph, with a call at least. -/
def Entered (graph : CallGraph) (edge : Edge) : Prop :=
  ∃ call, graph.call? edge = some call ∧ 1 ≤ call.count

theorem entered_record (graph : CallGraph) (edge : Edge) (time : Count) :
    (graph.record edge 1 time).Entered edge := by
  rw [Entered, call?_record, if_pos rfl]
  refine ⟨_, rfl, ?_⟩
  cases graph.call? edge with
  | none => exact Nat.le_refl 1
  | some call => exact Count.le_add_left 1 call.count

namespace Entered

variable {graph : CallGraph} {edge : Edge}

theorem ensureRow (entered : graph.Entered edge) (id : BlockId) :
    (graph.ensureRow id).Entered edge := by
  rcases entered with ⟨call, found, counted⟩
  refine ⟨call, ?_, counted⟩
  rwa [call?, row_ensureRow]

/-- No request takes an edge away or lowers its count. -/
theorem update (entered : graph.Entered edge) (request : GraphUpdate) :
    (graph.update request).Entered edge := by
  cases request with
  | record other count time =>
      rcases entered with ⟨call, found, counted⟩
      rw [Entered, CallGraph.update, call?_record]
      by_cases same : edge = other
      · subst same
        rw [if_pos rfl, found]
        exact ⟨_, rfl, Count.le_trans counted (Count.le_add_right call.count count)⟩
      · rw [if_neg same]
        exact ⟨call, found, counted⟩
  | unattributed time => exact entered
  | ensureRow id => exact entered.ensureRow id
  | track registry => exact entered.ensureRow registry.lastId

theorem updateAll (entered : graph.Entered edge) (updates : List GraphUpdate) :
    (graph.updateAll updates).Entered edge := by
  induction updates generalizing graph with
  | nil => exact entered
  | cons request rest ih => exact ih (entered.update request)

end Entered

end CallGraph

namespace Thread

/-- All that a thread keeps was entered in a graph. -/
structure BackedBy (thread : Thread) (graph : CallGraph) : Prop where
  active : ∀ edge ∈ thread.active.toList, graph.Entered edge
  slots : ∀ edge ∈ thread.slots, graph.Entered edge

theorem backedBy_start (graph : CallGraph) : start.BackedBy graph where
  active edge member := by
    cases member
  slots edge member := by
    simp [start] at member

namespace BackedBy

variable {thread : Thread} {graph : CallGraph}

theorem fork (backed : thread.BackedBy graph) : thread.fork.BackedBy graph :=
  ⟨backed.active, backed.slots⟩

theorem updateAll (backed : thread.BackedBy graph) (updates : List GraphUpdate) :
    thread.BackedBy (graph.updateAll updates) where
  active edge member := (backed.active edge member).updateAll updates
  slots edge member := (backed.slots edge member).updateAll updates

theorem activate (backed : thread.BackedBy graph) {edge : Edge} (entered : graph.Entered edge) :
    (thread.activate edge).BackedBy graph := by
  rw [Thread.activate]
  split
  next => exact backed
  next =>
    constructor
    · intro other member
      rcases List.mem_append.mp (Array.toList_push ▸ member) with old | new
      · exact backed.active other old
      · rwa [List.mem_singleton.mp new]
    · intro other member
      rcases Std.HashMap.mem_insert.mp member with same | old
      · rwa [← eq_of_beq same]
      · exact backed.slots other old

/-- The edge of a call is recorded before it is made active. -/
theorem enter (backed : thread.BackedBy graph) (callee : BlockId) :
    (thread.enter callee).BackedBy (graph.record (thread.edgeTo callee) 1 0) := by
  have earlier := backed.updateAll [.record (thread.edgeTo callee) 1 0]
  have pushed : (thread.push callee).BackedBy (graph.record (thread.edgeTo callee) 1 0) := by
    rw [push]
    split <;> exact ⟨earlier.active, earlier.slots⟩
  exact pushed.activate (graph.entered_record _ _)

theorem exit (backed : thread.BackedBy graph) {next : Thread} (returned : thread.exit = .ok next) :
    next.BackedBy graph := by
  rcases thread with ⟨top, below, active, slots, pending, inherited⟩
  cases below with
  | nil => cases returned
  | cons caller rest =>
      cases returned
      refine ⟨fun edge member => backed.active edge ?_, backed.slots⟩
      rw [Array.toList_shrink] at member
      exact List.mem_of_mem_take member

/-- A thread that makes its requests goes on to keep only what was entered. -/
theorem after (backed : thread.BackedBy graph) (operation : Operation) :
    (thread.after operation).BackedBy (graph.updateAll (thread.requests operation)) := by
  cases operation with
  | enter callee => exact backed.enter callee
  | markTail =>
      rw [after_markTail]
      split
      next => exact backed
      next => exact ⟨backed.active, backed.slots⟩
  | tailCall callee =>
      rw [after_tailCall, requests]
      split
      next => exact backed
      next =>
        have marked : BackedBy { thread with tailPending := true } graph :=
          ⟨backed.active, backed.slots⟩
        exact marked.enter callee
  | exit =>
      cases returned : thread.exit with
      | ok next =>
          rw [after_exit returned]
          exact backed.exit returned
      | error violation =>
          have refused : thread.apply .exit = .error violation := returned
          rw [after_of_refused refused]
          exact backed
  | sample time => exact backed.updateAll _

/-- The table has an entry for every edge once, and all of these are edges of the graph. -/
theorem size_slots_le (backed : thread.BackedBy graph) :
    thread.slots.size ≤ graph.edgeCount := by
  rw [← Std.HashMap.length_keys]
  apply CallGraph.length_le_edgeCount Std.HashMap.nodup_keys
  intro edge member
  rcases backed.slots edge (Std.HashMap.mem_keys.mp member) with ⟨call, found, _⟩
  exact ⟨call, found⟩

end BackedBy

/-- What a thread keeps is no more than there is in a graph. -/
structure Bounded (thread : Thread) (graph : CallGraph) : Prop where
  distinct : thread.active.toList.Nodup
  /-- Every active edge is in the graph, with a call at least. -/
  entered : ∀ edge ∈ thread.active.toList, ∃ call, graph.call? edge = some call ∧ 1 ≤ call.count
  active_le : thread.active.size ≤ graph.edgeCount
  slots_le : thread.slots.size ≤ graph.edgeCount

theorem BackedBy.bounded {thread : Thread} {graph : CallGraph} (backed : thread.BackedBy graph)
    (reachable : thread.Reachable) : thread.Bounded graph where
  distinct := reachable.coherent.distinct
  entered := backed.active
  active_le := by
    apply CallGraph.length_le_edgeCount reachable.coherent.distinct
    intro edge member
    rcases backed.active edge member with ⟨call, found, _⟩
    exact ⟨call, found⟩
  slots_le := backed.size_slots_le

end Thread

namespace Session

/-- The threads of a session are reachable and keep only what was entered in its graph. -/
structure Backed (session : Session) : Prop where
  reachable : ∀ id thread, session.thread? id = some thread → thread.Reachable
  backed : ∀ id thread, session.thread? id = some thread → thread.BackedBy session.graph

theorem backed_vacant (registry : Registry) (graph : CallGraph) :
    (vacant registry graph).Backed where
  reachable id thread alive := by
    cases alive
  backed id thread alive := by
    cases alive

namespace Backed

variable {session : Session}

theorem addThread (backed : session.Backed) {thread : Thread} (reachable : thread.Reachable)
    (new : thread.BackedBy session.graph) : (session.addThread thread).1.Backed where
  reachable id other alive := by
    rw [thread?_addThread] at alive
    split at alive
    next =>
      cases alive
      exact reachable
    next => exact backed.reachable id other alive
  backed id other alive := by
    rw [thread?_addThread] at alive
    split at alive
    next =>
      cases alive
      exact new
    next => exact backed.backed id other alive

theorem operate (backed : session.Backed) {id : ThreadId} {thread : Thread}
    (alive : session.thread? id = some thread) (operation : Operation) :
    (session.perform (.operate id operation)).Backed := by
  obtain ⟨graph_eq, _, thread_eq⟩ := perform_operate alive operation
  constructor
  · intro other moved found
    rw [thread_eq] at found
    split at found
    next =>
      cases found
      exact (backed.reachable id thread alive).after operation
    next => exact backed.reachable other moved found
  · intro other moved found
    rw [graph_eq]
    rw [thread_eq] at found
    split at found
    next =>
      cases found
      exact (backed.backed id thread alive).after operation
    next => exact (backed.backed other moved found).updateAll _

/-- A step leaves what the other threads keep in the graph. -/
theorem perform (backed : session.Backed) (step : RunStep) : (session.perform step).Backed := by
  cases step with
  | start =>
      rw [perform_start]
      exact backed.addThread .start (Thread.backedBy_start _)
  | fork id =>
      cases alive : session.thread? id with
      | some thread =>
          rw [perform_fork alive]
          exact backed.addThread (.fork (backed.reachable id thread alive))
            (backed.backed id thread alive).fork
      | none =>
          rw [perform_fork_absent alive]
          exact backed
  | operate id operation =>
      cases alive : session.thread? id with
      | some thread => exact backed.operate alive operation
      | none =>
          rw [perform_operate_absent alive]
          exact backed

theorem performAll (backed : session.Backed) (steps : List RunStep) :
    (session.performAll steps).Backed := by
  induction steps generalizing session with
  | nil => exact backed
  | cons step rest ih => exact ih (backed.perform step)

end Backed

end Session

/-- A thread that is inside of a call and then makes nothing but tail calls loops in its
frame. -/
theorem Thread.Reachable.loopsTo {thread : Thread} (reachable : thread.Reachable)
    (called : 1 < thread.depth) {blocks : Finset BlockId} {operations : List Operation}
    (inside : ∀ operation ∈ operations, operation.LoopsIn blocks) :
    thread.LoopsTo blocks (thread.afterAll operations) := by
  rcases reachable.exists_history with ⟨history, follows, _⟩
  have below : history.below ≠ [] := by
    rintro outside
    rw [follows.depth_eq, ThreadHistory.frames, outside] at called
    exact absurd called (Nat.lt_irrefl 1)
  exact follows.loopsTo (follows.afterAll operations)
    ((ThreadHistory.LoopsTo.refl history blocks).afterAll inside) below

namespace Session

/-- **What threads keep is bounded.**  In every run, on whatever graph, what a thread keeps is no
more than there is in the graph.  While a thread inside of a call makes nothing but tail calls to
some blocks, whatever other threads do, it gets no deeper, adds no more active edges than there
are pairs of these blocks and one for each, and a return takes away all of them. -/
theorem performAll_bounded {registry : Registry} {graph : CallGraph} {steps : List RunStep}
    {id : ThreadId} {thread : Thread}
    (alive : ((vacant registry graph).performAll steps).thread? id = some thread) :
    thread.Bounded ((vacant registry graph).performAll steps).graph ∧
      ∀ (blocks : Finset BlockId) (loop : List RunStep), 1 < thread.depth →
        (∀ operation ∈ RunStep.operationsOf id loop, operation.LoopsIn blocks) →
        ∃ after,
          (((vacant registry graph).performAll steps).performAll loop).thread? id = some after ∧
            thread.LoopsTo blocks after := by
  have backed := (backed_vacant registry graph).performAll steps
  have reachable := backed.reachable id thread alive
  refine ⟨(backed.backed id thread alive).bounded reachable, ?_⟩
  intro blocks loop called inside
  exact ⟨_, thread?_performAll alive loop, reachable.loopsTo called inside⟩

end Session

/-- A thread calls a block and, from there, another one. -/
def nestedSteps : List RunStep :=
  [.start, .operate 0 (.enter ⟨1⟩), .operate 0 (.enter ⟨2⟩)]

/-- It goes back and forth between the two, while a second thread makes a call. -/
def swinging : List RunStep :=
  [.operate 0 (.tailCall ⟨1⟩), .start, .operate 0 .markTail, .operate 0 (.tailCall ⟨2⟩),
    .operate 1 (.enter ⟨5⟩), .operate 0 (.sample 4), .operate 0 (.tailCall ⟨1⟩)]

theorem Session.performAll_bounded_swinging :
    ∃ thread, ((vacant .empty (.ofSize 1)).performAll nestedSteps).thread? 0 = some thread ∧
      thread.Bounded ((vacant .empty (.ofSize 1)).performAll nestedSteps).graph ∧
      1 < thread.depth ∧
      ∃ after, (((vacant .empty (.ofSize 1)).performAll nestedSteps).performAll
          swinging).thread? 0 = some after ∧
        thread.LoopsTo {⟨1⟩, ⟨2⟩} after ∧ after.active.size = thread.active.size + 1 := by
  have started : ((vacant .empty (.ofSize 1)).perform .start).thread? 0 = some Thread.start := rfl
  have alive : ((vacant .empty (.ofSize 1)).performAll nestedSteps).thread? 0 =
      some (Thread.start.afterAll [.enter ⟨1⟩, .enter ⟨2⟩]) :=
    thread?_performAll started [.operate 0 (.enter ⟨1⟩), .operate 0 (.enter ⟨2⟩)]
  have called : 1 < (Thread.start.afterAll [.enter ⟨1⟩, .enter ⟨2⟩]).depth := by cbv
  have inside : ∀ operation ∈ RunStep.operationsOf 0 swinging,
      operation.LoopsIn {⟨1⟩, ⟨2⟩} := by decide
  obtain ⟨bounded, loops⟩ := performAll_bounded alive
  obtain ⟨after, left, loopsTo⟩ := loops {⟨1⟩, ⟨2⟩} swinging called inside
  refine ⟨_, alive, bounded, called, after, left, loopsTo, ?_⟩
  rw [thread?_performAll alive] at left
  cases left
  cbv

end CallLedger

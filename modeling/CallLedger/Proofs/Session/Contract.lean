import CallLedger.Proofs.Folded.Course
import CallLedger.Proofs.Graph.Aggregation
import CallLedger.Proofs.Run.Steps

/-!
# The contract of a session

A session may be asked for anything in any order.  It refuses what breaks the contract: to
return from or to replace a call where there is none, to end a thread whose calls are open, to
collapse a graph that lacks rows, to look at a block that a profile does not have.  It refuses
nothing else, and what it refuses leaves no trace but that a thread that was to end is gone.
Everything that is taken for granted on the way, that a position lies in its list and that a
difference is not below zero, holds in every session.
-/

namespace CallLedger

namespace Thread

theorem depth_eq_one_iff {thread : Thread} : thread.depth = 1 ↔ thread.below = [] := by
  simp [depth, frames]

/-- An operation breaks the contract, by this violation. -/
inductive Breaks (thread : Thread) : Operation → Violation → Prop where
  | exit (outside : thread.depth = 1) : Breaks thread .exit .exitAtRoot
  | markTail (outside : thread.depth = 1) : Breaks thread .markTail .tailCallAtRoot
  | tailCall (outside : thread.depth = 1) (callee : BlockId) :
      Breaks thread (.tailCall callee) .tailCallAtRoot

/-- A thread refuses what breaks the contract. -/
theorem apply_error_iff {thread : Thread} {operation : Operation} {violation : Violation} :
    thread.apply operation = .error violation ↔ thread.Breaks operation violation := by
  constructor
  · intro refused
    cases operation with
    | enter callee => cases refused
    | sample time => cases refused
    | markTail =>
        rw [apply, markTail_eq] at refused
        split at refused
        next outside =>
          cases refused
          exact .markTail (depth_eq_one_iff.mpr outside)
        next => cases refused
    | tailCall callee =>
        rw [apply, markTail_eq] at refused
        split at refused
        next outside =>
          cases refused
          exact .tailCall (depth_eq_one_iff.mpr outside) callee
        next => cases refused
    | exit =>
        have outside := exit_refused_iff.mp ⟨violation, refused⟩
        rw [apply, Thread.exit, outside] at refused
        cases refused
        exact .exit (depth_eq_one_iff.mpr outside)
  · intro breaks
    cases breaks with
    | exit outside => rw [apply, Thread.exit, depth_eq_one_iff.mp outside]
    | markTail outside => rw [apply, markTail_eq, if_pos (depth_eq_one_iff.mp outside)]
    | tailCall outside callee =>
        rw [apply, markTail_eq, if_pos (depth_eq_one_iff.mp outside)]
        rfl

/-- A thread can be ended unless it is deeper than it was when it was made. -/
theorem close_error_iff {thread : Thread} {violation : Violation} :
    thread.close = .error violation ↔
      thread.inherited < thread.depth ∧
        violation = .openCalls (thread.depth - thread.inherited) := by
  rw [close, openCalls, ← Nat.sub_pos_iff_lt, Nat.pos_iff_ne_zero]
  split
  next closed => simp [closed]
  next opened => simp [opened, eq_comm]

end Thread

namespace ReportEntry

/-- The lists of callers and callees are cut at one of their positions. -/
def InRange (limit : Option Nat) (block : BlockProfile) : Prop :=
  block.callers.length - shown limit block.callers.length ≤ (ascending block.callers).length ∧
    shown limit block.callees.length ≤ (descending block.callees).length

theorem inRange (limit : Option Nat) (block : BlockProfile) : InRange limit block := by
  constructor
  · rw [ascending, List.length_mergeSort]
    exact Nat.sub_le ..
  · rw [descending, List.length_mergeSort]
    cases limit with
    | none => exact Nat.le_refl _
    | some most => exact Nat.min_le_right ..

end ReportEntry

namespace Profile

/-- A graph that is collapsed has a row for the root and for every block that is called. -/
def ComputeInRange (graph : CallGraph) : Prop :=
  BlockId.root.index < graph.size ∧ ∀ entry ∈ graph.calls, entry.2.id.index < graph.size

theorem computeInRange {graph : CallGraph} (wf : graph.WF) : ComputeInRange graph := by
  refine ⟨wf.nonempty, ?_⟩
  intro entry listed
  rw [CallGraph.calls_eq, List.mem_flatMap] at listed
  rcases listed with ⟨index, _, inRow⟩
  rcases List.mem_map.mp inRow with ⟨call, recorded, rfl⟩
  exact wf.closed ⟨index⟩ call recorded

/-- Only a graph that lacks rows cannot be collapsed. -/
theorem compute_error_iff {graph : CallGraph} (wf : graph.WF) {registry : Registry}
    {violation : Violation} :
    compute graph registry = .error violation ↔
      graph.size < registry.size ∧ violation = .uncoveredBlocks graph.size registry.size := by
  by_cases covered : registry.size ≤ graph.size
  · rcases reflects_of_wf wf covered with ⟨profile, computed, _⟩
    rw [computed]
    constructor
    · intro refused
      cases refused
    · rintro ⟨uncovered, _⟩
      exact absurd covered (Nat.not_le.mpr uncovered)
  · rw [compute, if_neg covered]
    constructor
    · intro refused
      cases refused
      exact ⟨Nat.lt_of_not_le covered, rfl⟩
    · rintro ⟨_, rfl⟩
      rfl

theorem get_error_iff {profile : Profile} {id : BlockId} {violation : Violation} :
    profile.get id = .error violation ↔
      profile.size ≤ id.index ∧ violation = .noSuchBlock profile.size id.index := by
  rw [get, get?, size, ← List.getElem?_eq_none_iff]
  cases profile.blocks[id.index]? with
  | none => simp [eq_comm]
  | some block => simp

end Profile

namespace Session

/-- The session after several commands, refused or not. -/
def carryOut (session : Session) (commands : List Command) : Session :=
  commands.foldl (fun session command => (session.step command).1) session

/-- A command breaks the contract, by this violation. -/
inductive Breaks (session : Session) : Command → Violation → Prop where
  | operate {id : ThreadId} {thread : Thread} {operation : Operation} {violation : Violation}
      (alive : session.thread? id = some thread) (breaks : thread.Breaks operation violation) :
      Breaks session (.operate id operation) violation
  | drop {id : ThreadId} {thread : Thread} (alive : session.thread? id = some thread)
      (opened : thread.inherited < thread.depth) :
      Breaks session (.drop id) (.openCalls (thread.depth - thread.inherited))
  | compute (uncovered : session.graph.size < session.registry.size) :
      Breaks session .compute (.uncoveredBlocks session.graph.size session.registry.size)
  | inspect {id : BlockId} {profile : Profile} (computed : session.profile = some profile)
      (outside : profile.size ≤ id.index) :
      Breaks session (.inspect id) (.noSuchBlock profile.size id.index)

/-- Every position that a command looks at exists, every list is cut at one of its positions,
and no difference that is taken is below zero.  Asking for a block by its identifier is the one
look-up that may fail. -/
def InRange (session : Session) : Command → Prop
  | .operate id operation => ∀ thread, session.thread? id = some thread →
      Tracked.InRange ⟨thread, session.graph⟩ operation
  | .drop id => ∀ thread violation, session.thread? id = some thread →
      thread.close = .error violation → thread.inherited ≤ thread.depth
  | .record edge _ _ => session.graph.RecordInRange edge
  | .track => 0 < session.registry.size
  | .compute => Profile.ComputeInRange session.graph
  | .report limit => ∀ profile, session.profile = some profile →
      BlockId.root.index < profile.size ∧
        ∀ block ∈ profile.blocks, ReportEntry.InRange limit block
  | .ingest id options input => ∀ thread, session.thread? id = some thread →
      Folded.State.InRange options 1 (.start session.registry ⟨thread, session.graph⟩)
        (Folded.splitLines input)
  | .register _ | .registerAll _ | .resolve _ | .startThread | .fork _ |
      .recordUnattributed _ | .ensureRow _ | .inspect _ => True

/-- Threads come from fresh ones by operations and forks, and the graph from one without calls
by requests. -/
structure WF (session : Session) : Prop where
  reachable : ∀ id thread, session.thread? id = some thread → thread.Reachable
  graph_eq : ∃ size updates, session.graph = (CallGraph.ofSize size).updateAll updates

theorem withThread_alive {session : Session} {id : ThreadId} {thread : Thread}
    (alive : session.thread? id = some thread)
    (action : Thread → Session × Except Refusal Answer) :
    session.withThread id action = action thread := by
  rw [withThread, alive]

/-- A command that needs a thread breaks the contract only with a thread that is alive. -/
theorem withThread_violated_iff {session : Session} {id : ThreadId}
    {action : Thread → Session × Except Refusal Answer} {violation : Violation} :
    (session.withThread id action).2 = .error (.violated violation) ↔
      ∃ thread, session.thread? id = some thread ∧
        (action thread).2 = .error (.violated violation) := by
  cases alive : session.thread? id with
  | none => simp [withThread, alive]
  | some thread => simp [withThread, alive]

theorem withProfile_violated_iff {session : Session}
    {action : Profile → Except Refusal Answer} {violation : Violation} :
    (session.withProfile action).2 = .error (.violated violation) ↔
      ∃ profile, session.profile = some profile ∧
        action profile = .error (.violated violation) := by
  cases computed : session.profile with
  | none => simp [withProfile, computed]
  | some profile => simp [withProfile, computed]

theorem fst_withProfile (session : Session) (action : Profile → Except Refusal Answer) :
    (session.withProfile action).1 = session := by
  rw [withProfile]
  split <;> rfl

section Violations

variable {session : Session} {violation : Violation}

theorem operate_violated_iff {id : ThreadId} {operation : Operation} :
    (session.step (.operate id operation)).2 = .error (.violated violation) ↔
      ∃ thread, session.thread? id = some thread ∧ thread.Breaks operation violation := by
  rw [step, operate, withThread_violated_iff]
  refine exists_congr fun thread => and_congr_right fun _ => ?_
  rw [Tracked.apply_eq, ← Thread.apply_error_iff]
  cases thread.apply operation with
  | ok next => simp [Except.map]
  | error found => simp [Except.map]

theorem drop_violated_iff {id : ThreadId} :
    (session.step (.drop id)).2 = .error (.violated violation) ↔
      ∃ thread, session.thread? id = some thread ∧ thread.close = .error violation := by
  rw [step, drop, withThread_violated_iff]
  refine exists_congr fun thread => and_congr_right fun _ => ?_
  cases thread.close with
  | ok _ => simp
  | error found => simp

theorem compute_violated_iff :
    (session.step .compute).2 = .error (.violated violation) ↔
      Profile.compute session.graph session.registry = .error violation := by
  rw [step]
  cases Profile.compute session.graph session.registry with
  | ok profile => simp
  | error found => simp

theorem inspect_violated_iff {id : BlockId} :
    (session.step (.inspect id)).2 = .error (.violated violation) ↔
      ∃ profile, session.profile = some profile ∧ profile.get id = .error violation := by
  rw [step, withProfile_violated_iff]
  refine exists_congr fun profile => and_congr_right fun _ => ?_
  cases profile.get id with
  | ok block => simp
  | error found => simp

end Violations

theorem thread?_drop {session : Session} {id : ThreadId} {thread : Thread}
    (alive : session.thread? id = some thread) (other : ThreadId) :
    (session.drop id).1.thread? other = if other = id then none else session.thread? other := by
  rw [drop, withThread_alive alive, thread?, Array.getElem?_modify]
  by_cases same : other = id
  · subst same
    simp [lt_size_of_thread? alive]
  · rw [if_neg same, if_neg (Ne.symm same)]
    rfl

/-- What a session makes of an ingestion on a thread that is alive. -/
theorem step_ingest {session : Session} {id : ThreadId} {thread : Thread}
    (alive : session.thread? id = some thread) (reachable : thread.Reachable)
    (options : Folded.Options) (input : Bytes) :
    ∃ state : Folded.State, ∃ answer, state.Proceeds session.graph ∧
      session.step (.ingest id options input) =
        ({ session.putTracked id state.tracked with registry := state.registry },
          .ok answer) := by
  obtain ⟨prior, proceeds, ran⟩ :=
    Folded.ingest_concludes reachable session.graph options session.registry input
  refine ⟨prior, ?_⟩
  rw [step, ingest, withThread_alive alive, ran]
  rcases decided : options.firstDecision? 1 (Folded.splitLines input) with
    - | ⟨number, - | fault⟩
  · exact ⟨_, proceeds, rfl⟩
  · exact ⟨_, proceeds, rfl⟩
  · -- A line never decides that the thread refuses something.
    cases fault with
    | invalidText => exact ⟨_, proceeds, rfl⟩
    | invalidCount error => exact ⟨_, proceeds, rfl⟩
    | refused violation => exact absurd decided (options.firstDecision?_ne_refused 1 _ _ _)

namespace WF

variable {session : Session}

theorem start (registry : Registry) (size : Nat) :
    (Session.start registry (.ofSize size)).WF where
  reachable id thread alive := by
    cases id with
    | zero =>
        cases alive
        exact .start
    | succ id => cases alive
  graph_eq := ⟨size, [], rfl⟩

theorem graph_wf (wf : session.WF) : session.graph.WF := by
  rcases wf.graph_eq with ⟨size, updates, graph_eq⟩
  rw [graph_eq]
  exact CallGraph.wf_updateAll size updates

/-- Requests keep a graph what it has to be. -/
theorem updateAll (wf : session.WF) (more : List GraphUpdate) :
    ∃ size updates, session.graph.updateAll more =
      (CallGraph.ofSize size).updateAll updates := by
  rcases wf.graph_eq with ⟨size, updates, graph_eq⟩
  exact ⟨size, updates ++ more, by rw [graph_eq, CallGraph.updateAll_append]⟩

theorem addThread (wf : session.WF) {thread : Thread} (reachable : thread.Reachable) :
    (session.addThread thread).1.WF where
  reachable id other alive := by
    rw [thread?_addThread] at alive
    split at alive
    next =>
      cases alive
      exact reachable
    next => exact wf.reachable id other alive
  graph_eq := wf.graph_eq

theorem putTracked (wf : session.WF) {id : ThreadId} {thread : Thread}
    (alive : session.thread? id = some thread) {tracked : Tracked}
    (reachable : tracked.thread.Reachable)
    (requested : ∃ updates, tracked.graph = session.graph.updateAll updates) :
    (session.putTracked id tracked).WF where
  reachable other moved found := by
    rw [thread?_putTracked alive] at found
    split at found
    next =>
      cases found
      exact reachable
    next => exact wf.reachable other moved found
  graph_eq := by
    rcases requested with ⟨updates, graph_eq⟩
    have same : (session.putTracked id tracked).graph = session.graph.updateAll updates :=
      graph_eq
    rw [same]
    exact wf.updateAll updates

/-- A command that needs a thread keeps a session what it has to be if it does so with the
thread. -/
theorem withThread (wf : session.WF) {id : ThreadId}
    {action : Thread → Session × Except Refusal Answer}
    (kept : ∀ thread, session.thread? id = some thread → (action thread).1.WF) :
    (session.withThread id action).1.WF := by
  rw [Session.withThread]
  split
  next thread alive => exact kept thread alive
  next => exact wf

/-- Every command leaves a session what it has to be, also one that is refused. -/
theorem step (wf : session.WF) (command : Command) : (session.step command).1.WF := by
  cases command with
  | register block | registerAll blocks | resolve name => exact ⟨wf.reachable, wf.graph_eq⟩
  | startThread => exact wf.addThread .start
  | fork id =>
      apply wf.withThread
      intro thread alive
      exact wf.addThread (wf.reachable id thread alive).fork
  | operate id operation =>
      apply wf.withThread
      intro thread alive
      rw [Tracked.apply_eq]
      cases moved : thread.apply operation with
      | error violation => exact wf
      | ok next =>
          have after_eq : thread.after operation = next := by rw [Thread.after, moved]
          have reachable : next.Reachable :=
            after_eq ▸ (wf.reachable id thread alive).after operation
          exact wf.putTracked alive reachable ⟨_, rfl⟩
  | drop id =>
      apply wf.withThread
      intro thread alive
      refine ⟨?_, wf.graph_eq⟩
      intro other left found
      have left_alive := thread?_drop alive other
      rw [drop, withThread_alive alive] at left_alive
      rw [left_alive] at found
      split at found
      next => cases found
      next => exact wf.reachable other left found
  | record edge count time => exact ⟨wf.reachable, wf.updateAll [.record edge count time]⟩
  | recordUnattributed time => exact ⟨wf.reachable, wf.updateAll [.unattributed time]⟩
  | ensureRow id => exact ⟨wf.reachable, wf.updateAll [.ensureRow id]⟩
  | track => exact ⟨wf.reachable, wf.updateAll [.track session.registry]⟩
  | compute =>
      rw [Session.step]
      cases Profile.compute session.graph session.registry with
      | ok profile => exact ⟨wf.reachable, wf.graph_eq⟩
      | error violation => exact wf
  | inspect id =>
      rw [Session.step, fst_withProfile]
      exact wf
  | report limit =>
      rw [Session.step, fst_withProfile]
      exact wf
  | ingest id options input =>
      cases alive : session.thread? id with
      | none =>
          apply wf.withThread
          intro thread found
          rw [alive] at found
          cases found
      | some thread =>
          obtain ⟨state, answer, proceeds, stepped⟩ :=
            step_ingest alive (wf.reachable id thread alive) options input
          rw [stepped]
          have put := wf.putTracked alive proceeds.reachable proceeds.graph_eq
          exact ⟨put.reachable, put.graph_eq⟩

theorem carryOut (wf : session.WF) (commands : List Command) :
    (session.carryOut commands).WF := by
  induction commands generalizing session with
  | nil => exact wf
  | cons command rest ih => exact ih (wf.step command)

/-- A command is refused for what it breaks, and for nothing else. -/
theorem violated_iff_breaks (wf : session.WF) (command : Command) {violation : Violation} :
    (session.step command).2 = .error (.violated violation) ↔
      session.Breaks command violation := by
  cases command with
  | register block | registerAll blocks | resolve name | startThread
  | record edge count time | recordUnattributed time | ensureRow id | track =>
      constructor
      · intro refused
        cases refused
      · intro breaks
        cases breaks
  | fork id =>
      constructor
      · intro refused
        obtain ⟨thread, _, forked⟩ := withThread_violated_iff.mp refused
        cases forked
      · intro breaks
        cases breaks
  | operate id operation =>
      rw [operate_violated_iff]
      constructor
      · rintro ⟨thread, alive, breaks⟩
        exact .operate alive breaks
      · intro breaks
        cases breaks with
        | operate alive breaks => exact ⟨_, alive, breaks⟩
  | drop id =>
      rw [drop_violated_iff]
      constructor
      · rintro ⟨thread, alive, refused⟩
        rcases Thread.close_error_iff.mp refused with ⟨opened, rfl⟩
        exact .drop alive opened
      · intro breaks
        cases breaks with
        | drop alive opened => exact ⟨_, alive, Thread.close_error_iff.mpr ⟨opened, rfl⟩⟩
  | compute =>
      rw [compute_violated_iff, Profile.compute_error_iff wf.graph_wf]
      constructor
      · rintro ⟨uncovered, rfl⟩
        exact .compute uncovered
      · intro breaks
        cases breaks with
        | compute uncovered => exact ⟨uncovered, rfl⟩
  | inspect id =>
      rw [inspect_violated_iff]
      constructor
      · rintro ⟨profile, computed, refused⟩
        rcases Profile.get_error_iff.mp refused with ⟨outside, rfl⟩
        exact .inspect computed outside
      · intro breaks
        cases breaks with
        | inspect computed outside =>
            exact ⟨_, computed, Profile.get_error_iff.mpr ⟨outside, rfl⟩⟩
  | report limit =>
      constructor
      · intro refused
        obtain ⟨profile, _, written⟩ := withProfile_violated_iff.mp refused
        cases written
      · intro breaks
        cases breaks
  | ingest id options input =>
      constructor
      · intro refused
        obtain ⟨thread, alive, _⟩ := withThread_violated_iff.mp refused
        obtain ⟨state, answer, _, stepped⟩ :=
          step_ingest alive (wf.reachable id thread alive) options input
        rw [stepped] at refused
        cases refused
      · intro breaks
        cases breaks

theorem inRange (wf : session.WF) (command : Command) : session.InRange command := by
  cases command with
  | operate id operation =>
      exact fun thread alive => Tracked.inRange (wf.reachable id thread alive) operation
  | drop id =>
      intro thread violation _ refused
      exact Nat.le_of_lt (Thread.close_error_iff.mp refused).1
  | record edge count time => exact session.graph.recordInRange edge
  | track => exact Nat.succ_pos _
  | compute => exact Profile.computeInRange wf.graph_wf
  | report limit =>
      exact fun profile _ => ⟨Nat.succ_pos _, fun block _ => ReportEntry.inRange limit block⟩
  | ingest id options input =>
      exact fun thread alive =>
        Folded.State.inRange (wf.reachable id thread alive) options 1 (Folded.splitLines input)
  | register block | registerAll blocks | resolve name | startThread | fork id
  | recordUnattributed time | ensureRow id | inspect id => trivial

end WF

/-- A command left everything alone, but for a thread that was to end and is gone. -/
structure Unharmed (command : Command) (before after : Session) : Prop where
  registry_eq : after.registry = before.registry
  graph_eq : after.graph = before.graph
  profile_eq : after.profile = before.profile
  size_eq : after.threads.size = before.threads.size
  thread?_eq : ∀ id, command ≠ .drop id → after.thread? id = before.thread? id
  dropped : ∀ id, command = .drop id → after.thread? id = none

theorem Unharmed.refl {command : Command} (kept : ∀ id, command ≠ .drop id)
    (session : Session) : Unharmed command session session where
  registry_eq := rfl
  graph_eq := rfl
  profile_eq := rfl
  size_eq := rfl
  thread?_eq _ _ := rfl
  dropped id drops := absurd drops (kept id)

theorem unharmed_drop {session : Session} {id : ThreadId} {thread : Thread}
    (alive : session.thread? id = some thread) :
    Unharmed (.drop id) session (session.drop id).1 where
  registry_eq := by rw [drop, withThread_alive alive]
  graph_eq := by rw [drop, withThread_alive alive]
  profile_eq := by rw [drop, withThread_alive alive]
  size_eq := by rw [drop, withThread_alive alive, Array.size_modify]
  thread?_eq other different := by
    rw [thread?_drop alive, if_neg]
    rintro rfl
    exact different rfl
  dropped other drops := by
    cases drops
    rw [thread?_drop alive, if_pos rfl]

/-- What breaks the contract leaves no trace. -/
theorem unharmed_of_breaks {session : Session} (wf : session.WF) {command : Command}
    {violation : Violation} (breaks : session.Breaks command violation) :
    Unharmed command session (session.step command).1 := by
  cases breaks with
  | operate alive breaks =>
      rw [step_operate alive, Thread.apply_error_iff.mpr breaks]
      exact .refl (by simp) session
  | drop alive opened => exact unharmed_drop alive
  | compute uncovered =>
      rw [Session.step, (Profile.compute_error_iff wf.graph_wf).mpr ⟨uncovered, rfl⟩]
      exact .refl (by simp) session
  | inspect computed outside =>
      rw [Session.step, fst_withProfile]
      exact .refl (by simp) session

/-- The contract of a session, for one command. -/
structure Upholds (session : Session) (command : Command) : Prop where
  /-- The command is refused for what it breaks, and it breaks nothing else. -/
  violated_iff : ∀ violation,
    (session.step command).2 = .error (.violated violation) ↔ session.Breaks command violation
  /-- What breaks the contract leaves no trace. -/
  unharmed : ∀ violation, (session.step command).2 = .error (.violated violation) →
    Unharmed command session (session.step command).1
  /-- Nothing else that is taken for granted on the way can fail. -/
  inRange : session.InRange command

/-- **The contract of a session.**  Whatever was asked of a session before, refused or not, a
command is refused exactly if it breaks the contract, and then it leaves no trace. -/
theorem carryOut_upholds (registry : Registry) (size : Nat) (commands : List Command)
    (command : Command) :
    ((start registry (.ofSize size)).carryOut commands).Upholds command := by
  have wf := (WF.start registry size).carryOut commands
  constructor
  · exact fun _ => wf.violated_iff_breaks command
  · exact fun _ refused => unharmed_of_breaks wf ((wf.violated_iff_breaks command).mp refused)
  · exact wf.inRange command

end Session

end CallLedger

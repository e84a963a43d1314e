import CallLedger.Proofs.Run.Steps
import CallLedger.Proofs.Thread.Activity

/-!
# Accounting for whole runs

A run is remembered as the history of every thread and one log of all calls and samples, in
the order in which they happened.  Nothing of this is kept by a session, yet after any run
the session shows exactly what the history adds up to: every thread its stack and its
active path, and the graph the clamped totals of the log.
-/

namespace CallLedger

open Session (ThreadId)

/-- A run as it is remembered. -/
structure RunHistory where
  /-- The histories of the threads, in order of creation. -/
  threads : List ThreadHistory
  /-- All calls and samples of all threads, in the order in which they happened. -/
  log : List Activity

namespace RunHistory

/-- Nothing happened yet. -/
def empty : RunHistory :=
  ⟨[], []⟩

/-- One more step.  A step of a thread that does not exist changes nothing. -/
def step (history : RunHistory) : RunStep → RunHistory
  | .start => ⟨history.threads ++ [.start], history.log⟩
  | .fork id =>
      match history.threads[id]? with
      | some own => ⟨history.threads ++ [own.fork], history.log⟩
      | none => history
  | .operate id operation =>
      match history.threads[id]? with
      | some own =>
          ⟨history.threads.set id (own.after operation),
            history.log ++ own.activity operation⟩
      | none => history

/-- The history of a run. -/
def ofSteps (steps : List RunStep) : RunHistory :=
  steps.foldl step empty

@[simp] theorem ofSteps_concat (steps : List RunStep) (next : RunStep) :
    ofSteps (steps ++ [next]) = (ofSteps steps).step next := by
  simp [ofSteps]

/-- A step by which a thread does nothing but what is allowed. -/
def Permits (history : RunHistory) (allowed : ThreadHistory → Operation → Prop) :
    RunStep → Prop
  | .operate id operation => ∀ own ∈ history.threads[id]?, allowed own operation
  | .start | .fork _ => True

instance (history : RunHistory) (allowed : ThreadHistory → Operation → Prop)
    [∀ own, DecidablePred (allowed own)] : DecidablePred (history.Permits allowed)
  | .operate id operation =>
      inferInstanceAs (Decidable (∀ own ∈ history.threads[id]?, allowed own operation))
  | .start | .fork _ => inferInstanceAs (Decidable True)

/-- A run whose threads do nothing but what is allowed. -/
def Obeys (steps : List RunStep) (allowed : ThreadHistory → Operation → Prop) : Prop :=
  ∀ moment ∈ RunStep.moments step empty steps, moment.1.Permits allowed moment.2

instance (steps : List RunStep) (allowed : ThreadHistory → Operation → Prop)
    [∀ own, DecidablePred (allowed own)] : Decidable (Obeys steps allowed) :=
  inferInstanceAs (Decidable (∀ moment ∈ RunStep.moments step empty steps, _))

theorem obeys_concat {steps : List RunStep} {next : RunStep}
    {allowed : ThreadHistory → Operation → Prop} :
    Obeys (steps ++ [next]) allowed ↔
      Obeys steps allowed ∧ (ofSteps steps).Permits allowed next := by
  simp only [Obeys, RunStep.moments_concat, List.forall_mem_append, List.forall_mem_singleton]
  rfl

/-- What every allowed operation of a thread keeps holds of all threads of a run that does
nothing else, and what every report of such a thread has holds of the whole log. -/
theorem forall_of_obeys {keeps : ThreadHistory → Prop} {has : Activity → Prop}
    {allowed : ThreadHistory → Operation → Prop}
    (start : keeps .start) (fork : ∀ own, keeps own → keeps own.fork)
    (after : ∀ own operation, keeps own → allowed own operation → keeps (own.after operation))
    (reports : ∀ own operation, keeps own → allowed own operation →
      ∀ activity ∈ own.activity operation, has activity)
    {steps : List RunStep} (obeys : Obeys steps allowed) :
    (∀ own ∈ (ofSteps steps).threads, keeps own) ∧
      ∀ activity ∈ (ofSteps steps).log, has activity := by
  induction steps using List.reverseRecOn with
  | nil =>
      constructor
      · intro own member
        cases member
      · intro activity member
        cases member
  | append_singleton steps next ih =>
      rcases obeys_concat.mp obeys with ⟨earlier, permits⟩
      rcases ih earlier with ⟨threads, log⟩
      have concat : ∀ own, keeps own →
          ∀ other ∈ (ofSteps steps).threads ++ [own], keeps other := by
        intro own kept other member
        rcases List.mem_append.mp member with old | new
        · exact threads other old
        · rwa [List.mem_singleton.mp new]
      rw [ofSteps_concat]
      cases next with
      | start => exact ⟨concat _ start, log⟩
      | fork id =>
          rw [RunHistory.step]
          split
          next own found =>
            exact ⟨concat _ (fork own (threads own (List.mem_of_getElem? found))), log⟩
          next => exact ⟨threads, log⟩
      | operate id operation =>
          rw [RunHistory.step]
          split
          next own found =>
            have kept := threads own (List.mem_of_getElem? found)
            have mayOperate := permits own found
            constructor
            · intro other member
              rcases List.mem_or_eq_of_mem_set member with old | rfl
              · exact threads other old
              · exact after own operation kept mayOperate
            · intro activity member
              rcases List.mem_append.mp member with old | new
              · exact log activity old
              · exact reports own operation kept mayOperate activity new
          next => exact ⟨threads, log⟩

/-- What every operation of a thread keeps holds of all threads of a run, and what every
report of such a thread has holds of the whole log. -/
theorem forall_ofSteps {keeps : ThreadHistory → Prop} {has : Activity → Prop}
    (start : keeps .start) (fork : ∀ own, keeps own → keeps own.fork)
    (after : ∀ own operation, keeps own → keeps (own.after operation))
    (reports : ∀ own operation, keeps own →
      ∀ activity ∈ own.activity operation, has activity)
    (steps : List RunStep) :
    (∀ own ∈ (ofSteps steps).threads, keeps own) ∧
      ∀ activity ∈ (ofSteps steps).log, has activity := by
  have anything : Obeys steps fun _ _ => True := by
    intro moment _
    rcases moment with ⟨history, _ | _ | _⟩
    · trivial
    · trivial
    · exact fun _ _ => trivial
  exact forall_of_obeys start fork (fun own operation kept _ => after own operation kept)
    (fun own operation kept _ => reports own operation kept) anything

/-- Calls in progress were made. -/
structure Grounded (history : RunHistory) : Prop where
  log : Activity.Grounded history.log
  made : ∀ own ∈ history.threads, ∀ edge ∈ own.inProgress, edge ∈ Activity.calls history.log

theorem grounded_empty : empty.Grounded where
  log := .nil
  made := by
    intro own member
    cases member

variable {history : RunHistory}

theorem Grounded.concat (grounded : history.Grounded) {own : ThreadHistory}
    (made : ∀ edge ∈ own.inProgress, edge ∈ Activity.calls history.log) :
    Grounded ⟨history.threads ++ [own], history.log⟩ where
  log := grounded.log
  made := by
    intro other member
    rcases List.mem_append.mp member with old | new
    · exact grounded.made other old
    · rw [List.mem_singleton.mp new]
      exact made

theorem Grounded.log_concat (grounded : history.Grounded) {own : ThreadHistory}
    (member : own ∈ history.threads) (operation : Operation) :
    Activity.Grounded (history.log ++ own.activity operation) := by
  have unchanged : Activity.Grounded (history.log ++ []) := by
    rw [List.append_nil]
    exact grounded.log
  cases operation with
  | enter callee => exact .entered grounded.log _
  | tailCall callee =>
      rw [ThreadHistory.activity]
      split
      · exact unchanged
      · exact .entered grounded.log _
  | sample time => exact .sampled grounded.log (grounded.made own member) time
  | markTail | exit => exact unchanged

theorem Grounded.step (grounded : history.Grounded) (next : RunStep) :
    (history.step next).Grounded := by
  cases next with
  | start =>
      apply grounded.concat
      intro edge running
      cases running
  | fork id =>
      rw [RunHistory.step]
      split
      next own found => exact grounded.concat (grounded.made own (List.mem_of_getElem? found))
      next => exact grounded
  | operate id operation =>
      rw [RunHistory.step]
      split
      next own found =>
        have member := List.mem_of_getElem? found
        refine ⟨grounded.log_concat member operation, ?_⟩
        intro other otherMember edge running
        rw [Activity.calls_append, List.mem_append]
        rcases List.mem_or_eq_of_mem_set otherMember with old | rfl
        · exact .inl (grounded.made other old edge running)
        · rcases ThreadHistory.mem_inProgress_after running with earlier | now
          · exact .inl (grounded.made own member edge earlier)
          · exact .inr now
      next => exact grounded

theorem grounded_ofSteps (steps : List RunStep) : (ofSteps steps).Grounded := by
  induction steps using List.reverseRecOn with
  | nil => exact grounded_empty
  | append_singleton steps next ih =>
      rw [ofSteps_concat]
      exact ih.step next

end RunHistory

namespace Session

/-- A session follows a run: every thread follows its own history, and the graph was built
by what the log requests. -/
structure Follows (session : Session) (size : Nat) (history : RunHistory) : Prop where
  count_eq : session.threads.size = history.threads.length
  threads : ∀ id own, history.threads[id]? = some own →
    ∃ thread, session.thread? id = some thread ∧ thread.Follows own
  graph_eq : session.graph =
    (CallGraph.ofSize size).updateAll (history.log.flatMap Activity.requests)

theorem follows_vacant (registry : Registry) (size : Nat) :
    (vacant registry (.ofSize size)).Follows size .empty where
  count_eq := rfl
  threads := by
    intro id own found
    cases found
  graph_eq := rfl

namespace Follows

variable {session : Session} {size : Nat} {history : RunHistory}

theorem absent (follows : session.Follows size history) {id : ThreadId}
    (missing : history.threads[id]? = none) : session.thread? id = none := by
  apply thread?_of_size_le
  rw [follows.count_eq]
  exact List.getElem?_eq_none_iff.mp missing

theorem addThread (follows : session.Follows size history) {thread : Thread}
    {own : ThreadHistory} (new : thread.Follows own) :
    (session.addThread thread).1.Follows size ⟨history.threads ++ [own], history.log⟩ where
  count_eq := by simp [follows.count_eq]
  threads := by
    intro id other found
    rw [thread?_addThread, follows.count_eq]
    by_cases last : id = history.threads.length
    · subst last
      have same : own = other := by simpa using found
      rw [if_pos rfl]
      exact ⟨thread, rfl, same ▸ new⟩
    · rw [if_neg last]
      apply follows.threads
      have inside := (List.getElem?_eq_some_iff.mp found).1
      rw [List.length_append, List.length_singleton] at inside
      have old := Nat.lt_of_le_of_ne (Nat.le_of_lt_succ inside) last
      rwa [List.getElem?_append_left old] at found
  graph_eq := follows.graph_eq

theorem operate (follows : session.Follows size history) {id : ThreadId}
    {own : ThreadHistory} (found : history.threads[id]? = some own) (operation : Operation) :
    (session.perform (.operate id operation)).Follows size
      ⟨history.threads.set id (own.after operation),
        history.log ++ own.activity operation⟩ := by
  rcases follows.threads id own found with ⟨thread, alive, threadFollows⟩
  rcases perform_operate alive operation with ⟨graph_eq, size_eq, thread_eq⟩
  constructor
  case count_eq => rw [size_eq, List.length_set, follows.count_eq]
  case graph_eq =>
    rw [graph_eq, follows.graph_eq, threadFollows.requests_eq, List.flatMap_append,
      CallGraph.updateAll_append]
  case threads =>
    intro other otherOwn otherFound
    rw [thread_eq]
    by_cases same : other = id
    · subst same
      rw [List.getElem?_set_self (List.getElem?_eq_some_iff.mp found).1] at otherFound
      cases otherFound
      exact ⟨_, if_pos rfl, threadFollows.after operation⟩
    · rw [List.getElem?_set_ne (Ne.symm same)] at otherFound
      rw [if_neg same]
      exact follows.threads other otherOwn otherFound

/-- Every step keeps a session in line with the run. -/
theorem perform (follows : session.Follows size history) (step : RunStep) :
    (session.perform step).Follows size (history.step step) := by
  cases step with
  | start =>
      rw [perform_start, RunHistory.step]
      exact follows.addThread Thread.follows_start
  | fork id =>
      cases found : history.threads[id]? with
      | some own =>
          rcases follows.threads id own found with ⟨thread, alive, threadFollows⟩
          rw [perform_fork alive]
          simp only [RunHistory.step, found]
          exact follows.addThread threadFollows.fork
      | none =>
          rw [perform_fork_absent (follows.absent found)]
          simp only [RunHistory.step, found]
          exact follows
  | operate id operation =>
      cases found : history.threads[id]? with
      | some own =>
          simp only [RunHistory.step, found]
          exact follows.operate found operation
      | none =>
          rw [perform_operate_absent (follows.absent found)]
          simp only [RunHistory.step, found]
          exact follows

end Follows

theorem follows_performAll (registry : Registry) (size : Nat) (steps : List RunStep) :
    ((vacant registry (.ofSize size)).performAll steps).Follows size (.ofSteps steps) := by
  induction steps using List.reverseRecOn with
  | nil => exact follows_vacant registry size
  | append_singleton steps step ih =>
      rw [performAll_concat, RunHistory.ofSteps_concat]
      exact ih.perform step

/-- What a session shows is what a run history adds up to. -/
structure AccountsFor (session : Session) (history : RunHistory) : Prop where
  /-- The same threads exist. -/
  count_eq : session.threads.size = history.threads.length
  /-- A thread has the stack of its history and, as its active path, the calls made into
  its frames, root frame first, with every edge kept only at its first occurrence. -/
  thread_eq : ∀ id own, history.threads[id]? = some own →
    ∃ thread, session.thread? id = some thread ∧ thread.stack = own.stack ∧
      thread.tailPending = own.tailPending ∧
      thread.active.toList = own.inProgress.eraseDups
  /-- An edge is there if and only if it was entered. -/
  edge_iff : ∀ edge, (session.graph.call? edge).isSome ↔ edge ∈ Activity.calls history.log
  /-- An edge counts how often it was entered, by whatever thread. -/
  count_of_edge : ∀ edge call, session.graph.call? edge = some call →
    call.id = edge.callee ∧ call.count = .ofNat ((Activity.calls history.log).count edge)
  /-- An edge has the time of all samples that found it in progress. -/
  time_of_edge : ∀ edge call, session.graph.call? edge = some call →
    call.time = .ofNat (Activity.totalTimeOn edge history.log)
  /-- Time sampled with no call in progress is unattributed. -/
  unattributed_eq :
    session.graph.unattributed = .ofNat (Activity.totalTimeOutside history.log)

/-- **Runs are accounted for.**  Whatever threads are started and forked on a graph that is
empty at first, and however their operations interleave, the session accounts for the
history of the run. -/
theorem performAll_accountsFor (registry : Registry) (size : Nat) (steps : List RunStep) :
    ((vacant registry (.ofSize size)).performAll steps).AccountsFor (.ofSteps steps) := by
  have follows := follows_performAll registry size steps
  have grounded := RunHistory.grounded_ofSteps steps
  generalize (vacant registry (.ofSize size)).performAll steps = session at follows
  generalize RunHistory.ofSteps steps = history at follows grounded
  have call_eq := fun edge => (congrArg (CallGraph.call? · edge) follows.graph_eq).trans
    (Activity.call?_requests grounded.log size edge)
  have found_eq : ∀ edge call, session.graph.call? edge = some call →
      call = ⟨edge.callee, .ofNat ((Activity.calls history.log).count edge),
        .ofNat (Activity.totalTimeOn edge history.log)⟩ := by
    intro edge call found
    rw [call_eq] at found
    split at found
    · exact (Option.some.inj found).symm
    · cases found
  constructor
  case count_eq => exact follows.count_eq
  case thread_eq =>
    intro id own found
    rcases follows.threads id own found with ⟨thread, alive, threadFollows⟩
    exact ⟨thread, alive, threadFollows.stack_eq, threadFollows.tailPending_eq,
      threadFollows.active_eq⟩
  case edge_iff =>
    intro edge
    rw [call_eq]
    split
    next called => simp [called]
    next uncalled => simp [uncalled]
  case count_of_edge =>
    intro edge call found
    rw [found_eq edge call found]
    exact ⟨rfl, rfl⟩
  case time_of_edge =>
    intro edge call found
    rw [found_eq edge call found]
  case unattributed_eq =>
    rw [follows.graph_eq, CallGraph.unattributed_updateAll, Activity.totalOutside_requests]

end Session

end CallLedger

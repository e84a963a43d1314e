import CallLedger.Proofs.Graph.Reordering
import CallLedger.Proofs.Run.Script

/-!
# Schedules do not matter

Threads that share a graph act in the order of some schedule.  Every thread sees the same
whatever the schedule is, and the requests that the graph receives are the same up to
order.  The invariant of a run says so of what is past and what is to come: the stories
told so far, continued by the scripts, and the requests made so far, together with those
that the scripts will make, do not change.
-/

namespace CallLedger

open Session (ThreadId Refusal Answer)

/-- A thread as it is seen from outside, with what it is going to do. -/
structure Performer where
  story : Story
  /-- How many threads it has forked. -/
  forks : Nat
  /-- What it is going to do. -/
  rest : Script

/-- A session with one performer for each of its threads. -/
structure Stage where
  session : Session
  performers : List Performer

namespace Stage

/-- Why a command was refused, if it was. -/
def refusal : Except Refusal Answer → Option Refusal
  | .ok _ => none
  | .error refused => some refused

/-- What can be seen of a thread of a session, nothing if there is no such thread. -/
def view (session : Session) (id : ThreadId) (refused : Option Refusal) : List Moment :=
  (session.thread? id).toList.map (·.moment refused)

/-- Start one more thread. -/
def enlist (stage : Stage) (script : Script) : Stage :=
  let id := stage.performers.length
  let next := stage.session.step .startThread
  { session := next.1
    performers := stage.performers ++ [⟨⟨[id], view next.1 id none⟩, 0, script⟩] }

/-- Several threads that have just been started on a graph. -/
def opening (registry : Registry) (graph : CallGraph) (scripts : List Script) : Stage :=
  scripts.foldl enlist ⟨.vacant registry graph, []⟩

/-- The thread whose turn it is carries out its next action.  Nothing happens if there is
no such thread or if it is done. -/
def advance (stage : Stage) (id : ThreadId) : Stage :=
  match stage.performers[id]? with
  | none => stage
  | some performer =>
      match performer.rest with
      | .done => stage
      | .operate operation rest =>
          let next := stage.session.step (.operate id operation)
          let moments := performer.story.moments ++ view next.1 id (refusal next.2)
          { session := next.1
            performers := stage.performers.set id
              ⟨⟨performer.story.address, moments⟩, performer.forks, rest⟩ }
      | .fork child rest =>
          let childId := stage.performers.length
          let next := stage.session.step (.fork id)
          let moments := performer.story.moments ++ view next.1 id (refusal next.2)
          { session := next.1
            performers := stage.performers.set id
                ⟨⟨performer.story.address, moments⟩, performer.forks + 1, rest⟩ ++
              [⟨⟨performer.forks :: performer.story.address, view next.1 childId none⟩,
                0, child⟩] }

/-- The stage after a schedule, which lists whose turn it is. -/
def run (stage : Stage) (schedule : List ThreadId) : Stage :=
  schedule.foldl advance stage

/-- Every thread is done. -/
def Complete (stage : Stage) : Prop :=
  ∀ performer ∈ stage.performers, performer.rest = .done

instance (stage : Stage) : Decidable stage.Complete :=
  inferInstanceAs (Decidable (∀ performer ∈ stage.performers, performer.rest = .done))

/-- What was seen of a thread. -/
def story? (stage : Stage) (address : Address) : Option Story :=
  (stage.performers.map Performer.story).find? (·.address == address)

/-- The order of turns cannot be told from two stages: the same was seen of every thread,
the graphs have the same records, and profiles of them agree. -/
structure SameUpToOrder (first second : Stage) : Prop where
  story_eq : ∀ address, first.story? address = second.story? address
  graph : first.session.graph.SameUpToOrder second.session.graph
  profile : ∀ registry, Profile.SameOutcome (Profile.compute first.session.graph registry)
    (Profile.compute second.session.graph registry)

end Stage

/-- A performer with the thread behind it. -/
structure Player extends Performer where
  thread : Thread

namespace Player

/-- A thread that was just created. -/
def new (address : Address) (thread : Thread) (script : Script) : Player :=
  ⟨⟨⟨address, [thread.moment none]⟩, 0, script⟩, thread⟩

/-- The stories of the player and of those that it is going to fork, to their end. -/
def stories (player : Player) : List Story :=
  player.rest.stories player.thread player.story player.forks

/-- What the player and those that it is going to fork will ask of the graph. -/
def requests (player : Player) : List GraphUpdate :=
  player.rest.requests player.thread

/-- The players that some scripts begin with. -/
def cast (scripts : List Script) : List Player :=
  scripts.mapIdx fun index script => new [index] .start script

theorem cast_concat (scripts : List Script) (script : Script) :
    cast (scripts ++ [script]) = cast scripts ++ [new [scripts.length] .start script] := by
  rw [cast, List.mapIdx_concat]
  rfl

theorem suffix_of_mem_cast {scripts : List Script} {told : Story}
    (member : told ∈ (cast scripts).flatMap stories) :
    ∃ number, number < scripts.length ∧ [number] <:+ told.address := by
  rcases List.mem_flatMap.mp member with ⟨player, listed, member⟩
  rcases List.mem_mapIdx.mp listed with ⟨number, inside, rfl⟩
  exact ⟨number, inside, Script.suffix_of_mem_stories member⟩

theorem distinct_stories_cast (scripts : List Script) :
    (((cast scripts).flatMap stories).map Story.address).Nodup := by
  induction scripts using List.reverseRecOn with
  | nil => exact List.nodup_nil
  | append_singleton scripts script ih =>
      rw [cast_concat, List.flatMap_append, List.flatMap_singleton, List.map_append,
        List.nodup_append]
      refine ⟨ih, Script.distinct_stories .., ?_⟩
      intro earlier earlierListed last lastListed equal
      rcases List.mem_map.mp earlierListed with ⟨earlierStory, earlierMember, rfl⟩
      rcases List.mem_map.mp lastListed with ⟨lastStory, lastMember, rfl⟩
      rcases suffix_of_mem_cast earlierMember with ⟨number, inside, earlierBelow⟩
      have lastBelow : [scripts.length] <:+ lastStory.address :=
        Script.suffix_of_mem_stories lastMember
      rw [← equal] at lastBelow
      exact Nat.ne_of_lt inside (Script.number_eq_of_suffix earlierBelow lastBelow)

end Player

/-- Replacing one element changes what all elements together give only in what the element
itself gives. -/
theorem flatMap_set_perm {α β : Type} {values : List α} {index : Nat} {old new : α}
    (gives : α → List β) (lost : List β) (found : values[index]? = some old)
    (split : (gives old).Perm (lost ++ gives new)) :
    (lost ++ (values.set index new).flatMap gives).Perm (values.flatMap gives) := by
  induction values generalizing index with
  | nil => cases found
  | cons value rest ih =>
      cases index with
      | zero =>
          cases found
          rw [List.set_cons_zero, List.flatMap_cons, List.flatMap_cons, ← List.append_assoc]
          exact (split.append_right _).symm
      | succ index =>
          rw [List.set_cons_succ, List.flatMap_cons, List.flatMap_cons]
          exact List.perm_append_comm_assoc .. |>.trans ((ih found).append_left _)

namespace Stage

/-- Players act on a stage: they are the threads of its session, and its graph was built by
the requests made so far. -/
structure Enacts (stage : Stage) (size : Nat) (players : List Player)
    (made : List GraphUpdate) : Prop where
  performers_eq : stage.performers = players.map Player.toPerformer
  count_eq : stage.session.threads.size = players.length
  thread_eq : ∀ id, stage.session.thread? id = players[id]?.map Player.thread
  graph_eq : stage.session.graph = (CallGraph.ofSize size).updateAll made

theorem view_eq {session : Session} {id : ThreadId} {thread : Thread}
    (alive : session.thread? id = some thread) (refused : Option Refusal) :
    view session id refused = [thread.moment refused] := by
  rw [view, alive]
  rfl

theorem refusal_operate {session : Session} {id : ThreadId} {thread : Thread}
    (alive : session.thread? id = some thread) (operation : Operation) :
    refusal (session.step (.operate id operation)).2 = thread.refusal operation := by
  rw [Session.step_operate alive, Thread.refusal]
  cases thread.apply operation <;> rfl

namespace Enacts

variable {stage : Stage} {size : Nat} {players : List Player} {made : List GraphUpdate}

theorem performer_eq (enacts : stage.Enacts size players made) {id : ThreadId}
    {player : Player} (found : players[id]? = some player) :
    stage.performers[id]? = some player.toPerformer := by
  rw [enacts.performers_eq, List.getElem?_map, found, Option.map_some]

theorem alive (enacts : stage.Enacts size players made) {id : ThreadId} {player : Player}
    (found : players[id]? = some player) :
    stage.session.thread? id = some player.thread := by
  rw [enacts.thread_eq, found, Option.map_some]

theorem revise (enacts : stage.Enacts size players made) {id : ThreadId}
    {player : Player} (found : players[id]? = some player) (revised : Player)
    (same : revised.thread = player.thread) :
    Enacts ⟨stage.session, stage.performers.set id revised.toPerformer⟩ size
      (players.set id revised) made where
  performers_eq := by rw [enacts.performers_eq, List.map_set]
  count_eq := by rw [enacts.count_eq, List.length_set]
  thread_eq := by
    intro other
    rw [enacts.thread_eq, List.getElem?_set]
    by_cases own : id = other
    · subst own
      rw [if_pos rfl, if_pos (List.getElem?_eq_some_iff.mp found).1, found, Option.map_some,
        Option.map_some, same]
    · rw [if_neg own]
  graph_eq := enacts.graph_eq

theorem concat (enacts : stage.Enacts size players made) {next : Session} {player : Player}
    (added : next = (stage.session.addThread player.thread).1) :
    Enacts ⟨next, stage.performers ++ [player.toPerformer]⟩ size (players ++ [player]) made where
  performers_eq := by simp [enacts.performers_eq]
  count_eq := by simp [added, enacts.count_eq]
  thread_eq := by
    intro id
    rw [added, Session.thread?_addThread, enacts.count_eq, List.getElem?_append]
    split
    next last => simp [last]
    next other =>
      rw [enacts.thread_eq]
      split
      next => rfl
      next outside =>
        have beyond : players.length < id :=
          Nat.lt_of_le_of_ne (Nat.le_of_not_lt outside) (Ne.symm other)
        simp [Nat.le_of_lt beyond, Nat.sub_ne_zero_of_lt beyond]
  graph_eq := by rw [added]; exact enacts.graph_eq

theorem enlist (enacts : stage.Enacts size players made) (script : Script) :
    (stage.enlist script).Enacts size (players ++ [.new [players.length] .start script])
      made := by
  have count_eq : stage.performers.length = players.length := by simp [enacts.performers_eq]
  have seen : view (stage.session.perform .start) players.length none =
      [Thread.start.moment none] := by
    apply view_eq
    rw [Session.perform_start, Session.thread?_addThread, enacts.count_eq, if_pos rfl]
  have enlisted : stage.enlist script =
      ⟨stage.session.perform .start,
        stage.performers ++ [(Player.new [players.length] .start script).toPerformer]⟩ := by
    rw [Stage.enlist, count_eq, Player.new, ← seen]
    rfl
  rw [enlisted]
  exact enacts.concat rfl

theorem opening (registry : Registry) (size : Nat) (earlier : List GraphUpdate)
    (scripts : List Script) :
    (Stage.opening registry ((CallGraph.ofSize size).updateAll earlier) scripts).Enacts size
      (Player.cast scripts) earlier := by
  induction scripts using List.reverseRecOn with
  | nil => exact ⟨rfl, rfl, fun _ => rfl, rfl⟩
  | append_singleton scripts script ih =>
      rw [Stage.opening, List.foldl_append, Player.cast_concat]
      have length_eq : (Player.cast scripts).length = scripts.length := by simp [Player.cast]
      have enlisted := ih.enlist script
      rw [length_eq] at enlisted
      exact enlisted

theorem operate (enacts : stage.Enacts size players made) {id : ThreadId} {story : Story}
    {forks : Nat} {operation : Operation} {rest : Script} {thread : Thread}
    (found : players[id]? = some ⟨⟨story, forks, .operate operation rest⟩, thread⟩) :
    let next := thread.after operation
    let moment := next.moment (thread.refusal operation)
    (stage.advance id).Enacts size (players.set id ⟨⟨story.note moment, forks, rest⟩, next⟩)
      (made ++ thread.requests operation) := by
  intro next moment
  have listed := enacts.performer_eq found
  have alive := enacts.alive found
  rcases Session.perform_operate alive operation with ⟨graph_eq, count_eq, thread_eq⟩
  have seen : view (stage.session.perform (.operate id operation)) id
      (refusal (stage.session.step (.operate id operation)).2) = [moment] := by
    rw [refusal_operate alive]
    apply view_eq
    rw [thread_eq, if_pos rfl]
  have advanced : stage.advance id =
      ⟨stage.session.perform (.operate id operation),
        stage.performers.set id ⟨story.note moment, forks, rest⟩⟩ := by
    simp only [Stage.advance, listed]
    rw [Story.note, ← seen]
    rfl
  rw [advanced]
  constructor
  case performers_eq => rw [enacts.performers_eq, List.map_set]
  case count_eq => rw [count_eq, enacts.count_eq, List.length_set]
  case thread_eq =>
    intro other
    rw [thread_eq, List.getElem?_set]
    by_cases same : other = id
    · subst same
      have inside := (List.getElem?_eq_some_iff.mp found).1
      rw [if_pos rfl, if_pos rfl, if_pos inside]
      rfl
    · rw [if_neg same, if_neg (Ne.symm same)]
      exact enacts.thread_eq other
  case graph_eq => rw [graph_eq, enacts.graph_eq, CallGraph.updateAll_append]

theorem fork (enacts : stage.Enacts size players made) {id : ThreadId} {story : Story}
    {forks : Nat} {child rest : Script} {thread : Thread}
    (found : players[id]? = some ⟨⟨story, forks, .fork child rest⟩, thread⟩) :
    (stage.advance id).Enacts size
      (players.set id ⟨⟨story.note (thread.moment none), forks + 1, rest⟩, thread⟩ ++
        [.new (forks :: story.address) thread.fork child]) made := by
  have listed := enacts.performer_eq found
  have alive := enacts.alive found
  let next := (stage.session.addThread thread.fork).1
  have stepped : stage.session.step (.fork id) = stage.session.addThread thread.fork :=
    Session.step_fork alive
  have ownSeen : view next id none = [thread.moment none] := by
    apply view_eq
    rw [Session.thread?_addThread, if_neg (Nat.ne_of_lt (Session.lt_size_of_thread? alive))]
    exact alive
  have childSeen : view next stage.performers.length none = [thread.fork.moment none] := by
    apply view_eq
    rw [Session.thread?_addThread, enacts.count_eq, enacts.performers_eq, List.length_map,
      if_pos rfl]
  have advanced : stage.advance id =
      ⟨next, stage.performers.set id ⟨story.note (thread.moment none), forks + 1, rest⟩ ++
        [(Player.new (forks :: story.address) thread.fork child).toPerformer]⟩ := by
    simp only [Stage.advance, listed, stepped]
    rw [Story.note, Player.new, ← ownSeen, ← childSeen]
    rfl
  have revised := enacts.revise found
    ⟨⟨story.note (thread.moment none), forks + 1, rest⟩, thread⟩ rfl
  rw [advanced]
  exact revised.concat rfl

/-- What is past and what is to come stay the same when a thread acts. -/
theorem advance (enacts : stage.Enacts size players made) (id : ThreadId) :
    ∃ nextPlayers nextMade, (stage.advance id).Enacts size nextPlayers nextMade ∧
      (nextPlayers.flatMap Player.stories).Perm (players.flatMap Player.stories) ∧
      (nextMade ++ nextPlayers.flatMap Player.requests).Perm
        (made ++ players.flatMap Player.requests) := by
  cases found : players[id]? with
  | none =>
      have missing : stage.performers[id]? = none := by
        rw [enacts.performers_eq, List.getElem?_map, found, Option.map_none]
      have unchanged : stage.advance id = stage := by simp only [Stage.advance, missing]
      rw [unchanged]
      exact ⟨players, made, enacts, .rfl, .rfl⟩
  | some player =>
      rcases player with ⟨⟨story, forks, rest⟩, thread⟩
      cases rest with
      | done =>
          have unchanged : stage.advance id = stage := by
            simp only [Stage.advance, enacts.performer_eq found]
          rw [unchanged]
          exact ⟨players, made, enacts, .rfl, .rfl⟩
      | operate operation rest =>
          refine ⟨_, _, enacts.operate found, ?_, ?_⟩
          · exact flatMap_set_perm Player.stories [] found .rfl
          · rw [List.append_assoc]
            exact (flatMap_set_perm Player.requests _ found .rfl).append_left made
      | fork child rest =>
          refine ⟨_, _, enacts.fork found, ?_, ?_⟩
          · -- What the child is going to do was so far counted with its parent.
            rw [List.flatMap_append, List.flatMap_singleton]
            apply List.perm_append_comm.trans
            exact flatMap_set_perm Player.stories _ found List.perm_append_comm
          · rw [List.flatMap_append, List.flatMap_singleton]
            apply List.Perm.append_left
            apply List.perm_append_comm.trans
            exact flatMap_set_perm Player.requests _ found List.perm_append_comm

/-- What is past and what is to come stay the same throughout a run. -/
theorem run (enacts : stage.Enacts size players made) (schedule : List ThreadId) :
    ∃ lastPlayers lastMade, (stage.run schedule).Enacts size lastPlayers lastMade ∧
      (lastPlayers.flatMap Player.stories).Perm (players.flatMap Player.stories) ∧
      (lastMade ++ lastPlayers.flatMap Player.requests).Perm
        (made ++ players.flatMap Player.requests) := by
  induction schedule generalizing stage players made with
  | nil => exact ⟨players, made, enacts, .rfl, .rfl⟩
  | cons id rest ih =>
      rcases enacts.advance id with ⟨nextPlayers, nextMade, nextEnacts, nextStories, nextRequests⟩
      rcases ih nextEnacts with ⟨lastPlayers, lastMade, lastEnacts, lastStories, lastRequests⟩
      exact ⟨lastPlayers, lastMade, lastEnacts, lastStories.trans nextStories,
        lastRequests.trans nextRequests⟩

theorem complete (enacts : stage.Enacts size players made) (complete : stage.Complete) :
    players.flatMap Player.stories = stage.performers.map Performer.story ∧
      players.flatMap Player.requests = [] := by
  have rest_eq : ∀ player ∈ players, player.rest = .done := by
    intro player member
    apply complete
    rw [enacts.performers_eq]
    exact List.mem_map_of_mem member
  constructor
  · rw [enacts.performers_eq, List.map_map, List.map_eq_flatMap]
    apply List.flatMap_congr
    intro player member
    rw [Player.stories, rest_eq player member]
    rfl
  · rw [List.flatMap_eq_nil_iff]
    intro player member
    rw [Player.requests, rest_eq player member]
    rfl

end Enacts

/-- Where no thread has two stories, a look-up does not depend on their order. -/
theorem find?_story_perm {first second : List Story} (reordered : first.Perm second)
    (distinct : (first.map Story.address).Nodup) (address : Address) :
    first.find? (·.address == address) = second.find? (·.address == address) := by
  induction reordered with
  | nil => rfl
  | cons story _ ih =>
      rw [List.find?_cons, List.find?_cons, ih (List.nodup_cons.mp distinct).2]
  | swap left right rest =>
      have different : right.address ≠ left.address := by
        intro equal
        apply (List.nodup_cons.mp distinct).1
        rw [equal]
        exact List.mem_cons_self
      by_cases leftFound : left.address = address
      · have rightMissed : right.address ≠ address := leftFound ▸ different
        simp [leftFound, rightMissed]
      · simp [List.find?_cons, leftFound]
  | trans one _ ihOne ihTwo =>
      exact (ihOne distinct).trans (ihTwo ((one.map Story.address).nodup_iff.mp distinct))

/-- **Schedules do not matter.**  Threads with fixed scripts share a graph that was built by
any requests.  If two schedules let every thread finish, then every thread saw the same
under both, the graphs have the same records, and profiles of them agree. -/
theorem run_sameUpToOrder (registry : Registry) (size : Nat) (earlier : List GraphUpdate)
    (scripts : List Script) (first second : List ThreadId)
    (firstComplete : ((opening registry ((CallGraph.ofSize size).updateAll earlier)
      scripts).run first).Complete)
    (secondComplete : ((opening registry ((CallGraph.ofSize size).updateAll earlier)
      scripts).run second).Complete) :
    ((opening registry ((CallGraph.ofSize size).updateAll earlier) scripts).run
      first).SameUpToOrder
        ((opening registry ((CallGraph.ofSize size).updateAll earlier) scripts).run second) := by
  have begins := Enacts.opening registry size earlier scripts
  obtain ⟨firstPlayers, firstMade, firstEnacts, firstStories, firstRequests⟩ :=
    begins.run first
  obtain ⟨secondPlayers, secondMade, secondEnacts, secondStories, secondRequests⟩ :=
    begins.run second
  rcases firstEnacts.complete firstComplete with ⟨firstTold, firstNothing⟩
  rcases secondEnacts.complete secondComplete with ⟨secondTold, secondNothing⟩
  rw [firstTold] at firstStories
  rw [secondTold] at secondStories
  rw [firstNothing, List.append_nil] at firstRequests
  rw [secondNothing, List.append_nil] at secondRequests
  have reordered := firstRequests.trans secondRequests.symm
  constructor
  case story_eq =>
    intro address
    apply find?_story_perm (firstStories.trans secondStories.symm)
    exact (firstStories.map Story.address).nodup_iff.mpr (Player.distinct_stories_cast scripts)
  case graph =>
    rw [firstEnacts.graph_eq, secondEnacts.graph_eq]
    exact CallGraph.updateAll_perm size reordered
  case profile =>
    intro registry
    rw [firstEnacts.graph_eq, secondEnacts.graph_eq]
    exact Profile.compute_perm size reordered registry

/-- Two threads in one recursion; the first leaves a call too often and forks a third. -/
def recursion : List Script :=
  [.operate (.enter ⟨1⟩) (.operate (.enter ⟨1⟩) (.fork
      (.operate .exit (.operate (.tailCall ⟨2⟩) (.operate (.sample 5) .done)))
      (.operate .exit (.operate .exit (.operate .exit .done))))),
    .operate (.enter ⟨2⟩) (.operate (.enter ⟨1⟩) (.operate (.sample 7) .done))]

theorem run_sameUpToOrder_recursion :
    ((opening .empty ((CallGraph.ofSize 1).updateAll []) recursion).run
      [0, 0, 0, 0, 0, 0, 2, 2, 2, 1, 1, 1]).SameUpToOrder
        ((opening .empty ((CallGraph.ofSize 1).updateAll []) recursion).run
          [1, 1, 0, 0, 0, 2, 0, 2, 1, 0, 2, 0]) :=
  run_sameUpToOrder .empty 1 [] recursion _ _ (by decide) (by decide)

end Stage

end CallLedger

import CallLedger.Folded.Load
import CallLedger.Report

/-!
# Profiling sessions

A session is everything that one run of a profiled program can hold: a registry, one
call graph, any number of threads that share it, and the profile computed last.
Commands are carried out one after the other.  A command that breaks the contract is
refused and, apart from a thread that is dropped, leaves the session as it was.
-/

namespace CallLedger

/-- State of a profiling session. -/
structure Session where
  registry : Registry
  graph : CallGraph
  /-- Threads in order of creation; a thread that was dropped leaves a gap. -/
  threads : Array (Option Thread)
  /-- The profile computed last. -/
  profile : Option Profile
  deriving Inhabited

namespace Session

/-- Number of a thread in its session. -/
abbrev ThreadId := Nat

/-- What can be asked of a session that may change it or be refused. -/
inductive Command where
  | register (block : Block)
  | registerAll (blocks : List Block)
  | resolve (name : String)
  | startThread
  | fork (thread : ThreadId)
  | operate (thread : ThreadId) (operation : Operation)
  | drop (thread : ThreadId)
  | record (edge : Edge) (count time : Count)
  | recordUnattributed (time : Count)
  | ensureRow (id : BlockId)
  | track
  | compute
  | inspect (id : BlockId)
  | report (limit : Option Nat)
  | ingest (thread : ThreadId) (options : Folded.Options) (input : Bytes)

inductive Answer where
  | done
  | block (id : BlockId)
  | resolved (id : BlockId) (isNew : Bool)
  | thread (id : ThreadId)
  | threadState (depth : Nat) (current : BlockId)
  | call (call : Option Call)
  | total (time : Count)
  | rows (count : Nat)
  | profile (profile : Profile)
  | blockProfile (block : BlockProfile)
  | text (text : String)
  | ingested (outcome : Except Folded.Fault Folded.Stats) (depth : Nat) (current : BlockId)

/-- Why a command has no answer. -/
inductive Refusal where
  /-- The command breaks the contract. -/
  | violated (violation : Violation)
  /-- The command names a thread that does not exist or was dropped. -/
  | noThread (thread : ThreadId)
  /-- The command needs a profile and none was computed. -/
  | noProfile
  deriving DecidableEq

/-- A session with one thread. -/
def start (registry : Registry) (graph : CallGraph) : Session where
  registry := registry
  graph := graph
  threads := #[some .start]
  profile := none

/-- A thread that is alive. -/
def thread? (session : Session) (id : ThreadId) : Option Thread :=
  session.threads[id]?.join

/-- Put back a thread and the graph that it charged. -/
def putTracked (session : Session) (id : ThreadId) (tracked : Tracked) : Session :=
  { session with
    threads := session.threads.modify id fun _ => some tracked.thread
    graph := tracked.graph }

/-- Add a thread, which receives the next number. -/
def addThread (session : Session) (thread : Thread) : Session × Except Refusal Answer :=
  ({ session with threads := session.threads.push (some thread) },
    .ok (.thread session.threads.size))

/-- Carry out a command that needs a thread. -/
def withThread (session : Session) (id : ThreadId)
    (action : Thread → Session × Except Refusal Answer) :
    Session × Except Refusal Answer :=
  match session.thread? id with
  | some thread => action thread
  | none => (session, .error (.noThread id))

/-- Carry out a command that needs a profile. -/
def withProfile (session : Session) (action : Profile → Except Refusal Answer) :
    Session × Except Refusal Answer :=
  match session.profile with
  | some profile => (session, action profile)
  | none => (session, .error .noProfile)

def operate (session : Session) (id : ThreadId) (operation : Operation) :
    Session × Except Refusal Answer :=
  session.withThread id fun thread =>
    match Tracked.apply ⟨thread, session.graph⟩ operation with
    | .ok tracked =>
        (session.putTracked id tracked,
          .ok (.threadState tracked.thread.depth tracked.thread.current))
    | .error violation => (session, .error (.violated violation))

/-- End a thread; it is gone even if it still had open calls. -/
def drop (session : Session) (id : ThreadId) : Session × Except Refusal Answer :=
  session.withThread id fun thread =>
    ({ session with threads := session.threads.modify id fun _ => none },
      match thread.close with
      | .ok () => .ok .done
      | .error violation => .error (.violated violation))

def ingest (session : Session) (id : ThreadId) (options : Folded.Options)
    (input : Bytes) : Session × Except Refusal Answer :=
  session.withThread id fun thread =>
    let (state, outcome) :=
      Folded.ingest options session.registry ⟨thread, session.graph⟩ input
    let after :=
      { session.putTracked id state.tracked with registry := state.registry }
    match outcome with
    | .error (.refused violation) => (after, .error (.violated violation))
    | outcome =>
        (after,
          .ok (.ingested (outcome.map fun _ => state.stats) state.tracked.thread.depth
            state.tracked.thread.current))

def step (session : Session) : Command → Session × Except Refusal Answer
  | .register block =>
      ({ session with registry := session.registry.register block },
        .ok (.block session.registry.nextId))
  | .registerAll blocks =>
      ({ session with registry := session.registry.registerAll blocks },
        .ok (.block session.registry.nextId))
  | .resolve name =>
      let resolution := session.registry.resolve name
      ({ session with registry := resolution.registry },
        .ok (.resolved resolution.id resolution.isNew))
  | .startThread => session.addThread .start
  | .fork id => session.withThread id fun thread => session.addThread thread.fork
  | .operate id operation => session.operate id operation
  | .drop id => session.drop id
  | .record edge count time =>
      let graph := session.graph.record edge count time
      ({ session with graph }, .ok (.call (graph.call? edge)))
  | .recordUnattributed time =>
      let graph := session.graph.recordUnattributed time
      ({ session with graph }, .ok (.total graph.unattributed))
  | .ensureRow id =>
      let graph := session.graph.ensureRow id
      ({ session with graph }, .ok (.rows graph.size))
  | .track =>
      let graph := session.graph.track session.registry
      ({ session with graph }, .ok (.rows graph.size))
  | .compute =>
      match Profile.compute session.graph session.registry with
      | .ok profile => ({ session with profile := some profile }, .ok (.profile profile))
      | .error violation => (session, .error (.violated violation))
  | .inspect id =>
      session.withProfile fun profile =>
        match profile.get id with
        | .ok block => .ok (.blockProfile block)
        | .error violation => .error (.violated violation)
  | .report limit =>
      session.withProfile fun profile =>
        .ok (.text ((Report.ofProfile profile session.registry limit).render session.registry))
  | .ingest id options input => session.ingest id options input

end Session

end CallLedger

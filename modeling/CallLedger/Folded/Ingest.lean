import CallLedger.Folded.Line
import CallLedger.Log
import CallLedger.Thread

/-!
# Ingesting folded stacks

Every sample line is replayed on a thread: its frames are resolved to blocks, entered
from the outermost to the innermost, sampled once and left again.  Lines are handled
one after the other.  The first line that ends the section or has a fault decides how
the ingestion ends; the lines before it are applied completely, that line and those
after it not at all.
-/

namespace CallLedger.Folded

/-- How input is to be read. -/
structure Options where
  /-- Ignore the first line. -/
  skipHeader : Bool
  /-- Block name of a frame. -/
  rename : String → String
  deriving Inhabited

/-- What an ingestion consumed. -/
structure Stats where
  /-- Sample lines applied. -/
  lines : Nat
  /-- Sum of their counts. -/
  samples : Count
  /-- Blocks registered for names not seen before. -/
  newBlocks : Nat
  /-- Number of the line that ended the section, if one did. -/
  stoppedAt : Option Nat
  deriving DecidableEq, Inhabited

inductive Fault where
  /-- A line is not UTF-8. -/
  | invalidText
  /-- A sample count cannot be read. -/
  | invalidCount (error : CountError)
  /-- The thread refused a call or a return. -/
  | refused (violation : Violation)
  deriving DecidableEq

/-- What is to be done about a line. -/
inductive Verdict where
  | skip (header : String)
  | apply (count : Count) (frames : List String)
  | stop
  | fail (fault : Fault)
  deriving DecidableEq

/-- Read one line, before anything is applied. -/
def Options.read (options : Options) (number : Nat) (line : Bytes) : Verdict :=
  match line.toText? with
  | none => .fail .invalidText
  | some text =>
      if number = 1 && options.skipHeader then
        .skip text
      else
        match parseLine text number with
        | .ok (.sample count frames) => .apply count (frames.map options.rename)
        | .ok .sectionEnd => .stop
        | .error error => .fail (.invalidCount error)

/-- The blocks of a list of names, in order, with a mark for those that are new. -/
def resolveAll (registry : Registry) : List String → Registry × List (BlockId × Bool)
  | [] => (registry, [])
  | name :: names =>
      let first := registry.resolve name
      let (final, others) := resolveAll first.registry names
      (final, (first.id, first.isNew) :: others)

/-- Registry, thread and graph during an ingestion, with the account of it. -/
structure State where
  registry : Registry
  tracked : Tracked
  stats : Stats
  /-- Events so far, the latest first. -/
  events : List Event

namespace State

/-- An ingestion that has consumed nothing yet. -/
def start (registry : Registry) (tracked : Tracked) : State where
  registry := registry
  tracked := tracked
  stats := ⟨0, 0, 0, none⟩
  events := []

/-- Enter a path of blocks, charge a count to it and leave it again.  If the thread
refuses a return, what was entered stays entered. -/
def replay (tracked : Tracked) (path : List BlockId) (count : Count) :
    Tracked × Except Violation Unit :=
  let sampled := (tracked.enterAll path).sample count
  match sampled.exitTimes path.length with
  | .ok left => (left, .ok ())
  | .error violation => (sampled, .error violation)

def apply : State → Count → List String → State × Except Violation Unit
  | ⟨registry, tracked, stats, events⟩, count, names =>
      let (registry, resolved) := resolveAll registry names
      let path := resolved.map Prod.fst
      let edges := List.zipWith Edge.mk (tracked.thread.current :: path) path
      -- Growth is told from the size of the graph before the calls are recorded.
      let growth := Event.growth tracked.graph.size edges
      let (tracked, outcome) := replay tracked path count
      ({ registry
         tracked
         stats := { stats with
           lines := stats.lines + 1
           samples := stats.samples + count
           newBlocks := stats.newBlocks + (resolved.filter Prod.snd).length }
         events := growth.reverse ++ events }, outcome)

def note (state : State) (event : Event) : State :=
  { state with events := event :: state.events }

/-- Handle lines from the given line number on. -/
def ingest (options : Options) (number : Nat) (state : State) :
    List Bytes → State × Except Fault Unit
  | [] => (state, .ok ())
  | line :: rest =>
      match options.read number line with
      | .skip header => ingest options (number + 1) (state.note (.headerSkipped header)) rest
      | .apply count names =>
          match state.apply count names with
          | (next, .ok ()) => ingest options (number + 1) next rest
          | (next, .error violation) => (next, .error (.refused violation))
      | .stop =>
          let stopped := state.note (.sectionEnded number)
          ({ stopped with stats := { stopped.stats with stoppedAt := some number } }, .ok ())
      | .fail fault => (state, .error fault)

end State

/-- Apply every sample of an input to a thread. -/
def ingest (options : Options) (registry : Registry) (tracked : Tracked) (input : Bytes) :
    State × Except Fault Unit :=
  State.ingest options 1 (.start registry tracked) (splitLines input)

end CallLedger.Folded

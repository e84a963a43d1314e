import CallLedger.Folded.Ingest
import CallLedger.Profile
import CallLedger.Symbol

/-!
# Loading a profile

One input of folded stacks makes one profile: the samples are replayed on a fresh
thread and graph, and the graph is collapsed.
-/

namespace CallLedger.Folded

/-- The way of reading that a user asks for: whether the first line is ignored, and
whether frames are named by the readable form of their symbols. -/
def Options.ofFlags (skipHeader demangle : Bool) : Options where
  skipHeader := skipHeader
  rename := if demangle then Symbol.demangle else id

structure Loaded where
  registry : Registry
  profile : Profile
  stats : Stats
  deriving DecidableEq

/-- A fresh thread on a graph that knows only the root. -/
def freshTracked : Tracked :=
  ⟨.start, .ofRegistry .empty⟩

/-- Collapse the graph of a finished ingestion. -/
def State.collapse (state : State) : Except Violation (Loaded × List Event) := do
  state.tracked.thread.close
  let graph := state.tracked.graph.track state.registry
  let profile ← Profile.compute graph state.registry
  return (
    { registry := state.registry, profile, stats := state.stats },
    [.profileComputed profile.size graph.edgeCount profile.totalTime])

/-- What comes of an ingestion that has ended.  The events tell what happened on the way, also
if there is no profile. -/
def finish : State × Except Fault Unit → Except Fault Loaded × List Event
  | (state, .error fault) => (.error fault, state.events.reverse)
  | (state, .ok ()) =>
      match state.collapse with
      | .error violation => (.error (.refused violation), state.events.reverse)
      | .ok (loaded, collapsed) => (.ok loaded, state.events.reverse ++ collapsed)

def load (options : Options) (input : Bytes) : Except Fault Loaded × List Event :=
  finish (ingest options .empty freshTracked input)

end CallLedger.Folded

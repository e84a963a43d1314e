import CallLedger.Binary64.Printing
import CallLedger.CallGraph
import CallLedger.Text.Character

/-!
# Log lines

What the program notes about its progress.  An event is a value that the pure code
returns; whether and where it is shown is decided by the level that the user asked
for.
-/

namespace CallLedger

/-- Importance of an event. -/
inductive LogLevel where
  | warn
  | info
  | debug
  | trace
  deriving DecidableEq, Repr

namespace LogLevel

/-- The level that shows more the more often the user asks. -/
def ofVerbosity : Nat → LogLevel
  | 0 => warn
  | 1 => info
  | 2 => debug
  | _ => trace

/-- Name in command lines. -/
def name : LogLevel → String
  | warn => "warn"
  | info => "info"
  | debug => "debug"
  | trace => "trace"

/-- Name in log lines. -/
def tag : LogLevel → String
  | warn => "WARN"
  | info => "INFO"
  | debug => "DEBUG"
  | trace => "TRACE"

def detail : LogLevel → Nat
  | warn => 0
  | info => 1
  | debug => 2
  | trace => 3

end LogLevel

/-- A step of the program worth noting. -/
inductive Event where
  /-- The first line was skipped on request. -/
  | headerSkipped (header : String)
  /-- The samples ended before the input did. -/
  | sectionEnded (line : Nat)
  /-- The call graph received rows for further blocks. -/
  | graphGrown (before after : Nat)
  /-- A graph was collapsed into a profile. -/
  | profileComputed (blocks edges : Nat) (totalTime : Count)
  /-- The input was read completely. -/
  | stacksLoaded (source : String) (lines : Nat) (samples : Count) (blocks : Nat)
      (elapsed : String)
  /-- The blocks to list were chosen. -/
  | blocksSelected (entries : Nat) (limit : Count) (threshold : Binary64)
  deriving DecidableEq

namespace Event

def level : Event → LogLevel
  | sectionEnded .. => .warn
  | stacksLoaded .. => .info
  | headerSkipped .. | profileComputed .. | blocksSelected .. => .debug
  | graphGrown .. => .trace

def message : Event → String
  | headerSkipped .. => "skipping header line"
  | sectionEnded .. => "end of folded stack section, ignoring the rest"
  | graphGrown .. => "growing call graph"
  | profileComputed .. => "computed profile"
  | stacksLoaded .. => "loaded folded stacks"
  | blocksSelected .. => "selected top blocks"

/-- The particulars, named. -/
def fields : Event → List (String × String)
  | headerSkipped header => [("header", Text.trimEnd header)]
  | sectionEnded line => [("line", toString line)]
  | graphGrown before after => [("from", toString before), ("to", toString after)]
  | profileComputed blocks edges totalTime =>
      [("blocks", toString blocks), ("edges", toString edges),
        ("total_time", toString totalTime)]
  | stacksLoaded source lines samples blocks elapsed =>
      [("source", source), ("lines", toString lines), ("samples", toString samples),
        ("blocks", toString blocks), ("elapsed", elapsed)]
  | blocksSelected entries limit threshold =>
      [("entries", toString entries), ("limit", toString limit),
        ("threshold", threshold.text .log)]

/-- The log line of an event. -/
def render (event : Event) : String :=
  event.fields.foldl (fun line (name, value) => line ++ " " ++ name ++ "=" ++ value)
    (event.level.tag ++ " " ++ event.message)

/-- The log lines of the events that a level asks for. -/
def renderAll (shown : LogLevel) (events : List Event) : List String :=
  (events.filter (·.level.detail ≤ shown.detail)).map render

/-- The growth that recording a list of edges causes in a graph of some size. -/
def growth (size : Nat) : List Edge → List Event
  | [] => []
  | edge :: rest =>
      let needed := max edge.caller.index edge.callee.index + 1
      if size < needed then
        graphGrown size needed :: growth needed rest
      else
        growth size rest

end Event

end CallLedger

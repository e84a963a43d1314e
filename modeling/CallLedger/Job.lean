import CallLedger.Failure
import CallLedger.Folded.Load
import CallLedger.Listing
import CallLedger.Report

/-!
# Jobs

A job turns one input of folded stacks into one text.  It says where the samples come
from, how they are read, in which format the profile is shown, and where the text goes.
-/

namespace CallLedger

inductive Format where
  | report
  | table
  | json
  | csv
  deriving DecidableEq, Repr

/-- One input and what to make of it. -/
structure Job where
  /-- Name of the input file; without one, standard input is read. -/
  input : Option String
  skipHeader : Bool
  demangle : Bool
  format : Format
  /-- Number of blocks that a listing has at most. -/
  top : Count
  /-- Least share of the total, in percent, that a listed block has. -/
  threshold : Binary64
  /-- Number of callers and of callees that a report shows at most for a block. -/
  maxEdges : Option Count
  /-- Name of the output file; without one, standard output is written. -/
  output : Option String
  deriving DecidableEq

namespace Job

/-- The largest percentage. -/
def wholeShare : Binary64 := .ofNat 100

/-- Check that the limits of a job make sense.  The first limit that does not is
reported. -/
def validate (job : Job) : Except ArgumentFault Unit :=
  if job.top = 0 then
    .error .zeroTop
  else if !(Binary64.zero.le job.threshold && job.threshold.le wholeShare) then
    .error (.threshold job.threshold)
  else if job.maxEdges = some 0 then
    .error .zeroEdges
  else
    .ok ()

/-- The way in which the input is read. -/
def options (job : Job) : Folded.Options :=
  .ofFlags job.skipHeader job.demangle

/-- How the input is called in output. -/
def source (job : Job) : String :=
  job.input.getD "<stdin>"

/-- The blocks that a listing of a profile shows. -/
def selected (job : Job) (profile : Profile) : List BlockProfile :=
  profile.top job.top.value job.threshold

def listing (job : Job) (loaded : Folded.Loaded) : Listing :=
  .ofProfile job.source loaded.profile loaded.registry (job.selected loaded.profile)

/-- Text of a profile in the format of the job.  The time of day is shown in tables. -/
def render (job : Job) (clock : String) (loaded : Folded.Loaded) : String :=
  match job.format with
  | .report =>
      (Report.ofProfile loaded.profile loaded.registry (job.maxEdges.map (·.value))).render
        loaded.registry
  | .table => (job.listing loaded).renderTable clock
  | .json => (job.listing loaded).renderDocument
  | .csv => (job.listing loaded).renderRecords

/-- Load what was read.  Lines are handled as they come, so a reading that broke off matters only
if its complete lines leave open how the loading ends. -/
def load (job : Job) (reading : Reading) : Except Failure Folded.Loaded × List Event :=
  let (state, outcome) := Folded.ingest job.options .empty Folded.freshTracked reading.lines
  match reading.fault?, outcome, state.stats.stoppedAt with
  | some fault, .ok (), none => (.error (.file fault), state.events.reverse)
  | _, _, _ =>
      let (loaded, events) := Folded.finish (state, outcome)
      (loaded.mapError .ofFault, events)

/-- What is worth noting about the text of a profile. -/
def renderEvents (job : Job) (loaded : Folded.Loaded) : List Event :=
  match job.format with
  | .report => []
  | _ => [.blocksSelected (job.selected loaded.profile).length job.top job.threshold]

def loadedEvent (job : Job) (loaded : Folded.Loaded) (elapsed : String) : Event :=
  .stacksLoaded job.source loaded.stats.lines loaded.stats.samples loaded.registry.size elapsed

end Job

end CallLedger

import CallLedger.CommandLine
import CallLedger.CommandLine.Help
import CallLedger.Surroundings

/-!
# The program

A job reads all of its input before it opens its output, so a job whose input cannot be
read leaves every file as it was, and a job may write over its own input.  Limits that
make no sense are refused before anything is read.

The text of a profile is written while the job runs, and it may turn out that nobody takes
it.  Help and completion scripts are left to be printed when the program is over.
-/

namespace CallLedger

variable {m : Type → Type} [Monad m]

/-- What came of a job. -/
structure Outcome where
  /-- What is worth noting, in order. -/
  events : List Event
  result : Except Failure Unit

namespace Job

def readInput (job : Job) (around : Surroundings m) : m Reading :=
  match job.input with
  | some name => around.readFile name
  | none => around.readInput

/-- Write a text where the job wants it. -/
def writeOutput (job : Job) (around : Surroundings m) (text : String) :
    m (Except WriteFault Unit) := do
  match job.output with
  | some name => around.writeFile name (.ofText text)
  -- Standard output is open from the start.
  | none => return (← around.writeOutput (.ofText text)).mapError (⟨·, true⟩)

/-- Deliver a profile.  Blocks are selected once the output is open, and not before. -/
def deliver (job : Job) (around : Surroundings m) (loaded : Folded.Loaded)
    (events : List Event) : m Outcome := do
  let text := job.render (← around.clock) loaded
  let allEvents := events ++ job.renderEvents loaded
  match ← job.writeOutput around text with
  | .ok () => return ⟨allEvents, .ok ()⟩
  | .error ⟨fault, opened⟩ =>
      return ⟨if opened then allEvents else events, .error (.file fault)⟩

def run (job : Job) (around : Surroundings m) : m Outcome := do
  match job.load (← job.readInput around) with
  | (.error reason, events) => return ⟨events, .error reason⟩
  | (.ok loaded, events) =>
      job.deliver around loaded (events ++ [job.loadedEvent loaded (← around.elapsed)])

end Job

/-- How the program ends. -/
structure Exit where
  code : Nat
  /-- Text that is still to be printed. -/
  output : String
  /-- Lines for standard error. -/
  errors : List String
  deriving DecidableEq, Repr

namespace Exit

def success (output : String) (errors : List String) : Exit :=
  ⟨0, output, errors⟩

def failure (complaint : Complaint) (errors : List String) : Exit :=
  ⟨complaint.exitCode, "", errors ++ ["Error: " ++ complaint.chain]⟩

end Exit

/-- What a job does, for messages. -/
def Job.activity (job : Job) : String :=
  "Failed to profile " ++ job.input.getD "stdin"

/-- Do a job and report about it. -/
def Job.execute (job : Job) (level : LogLevel) (around : Surroundings m) : m Exit := do
  let outcome ← job.run around
  let errors := Event.renderAll level outcome.events
  match outcome.result with
  | .ok () => return .success "" errors
  | .error reason => return .failure (.during job.activity (.failure reason)) errors

/-- Carry out an invocation.  Its arguments are checked before anything else. -/
def Invocation.execute (invocation : Invocation) (around : Surroundings m) : m Exit :=
  match invocation.command.validate with
  | .error fault =>
      return .failure (.during "Invalid arguments" (.failure (.invalidArgument fault))) []
  | .ok () =>
      match invocation.command with
      | .fold job => job.execute invocation.logLevel around
      | .complete shell => return .success shell.completion []

/-- What the program leaves when its command line asks for no command. -/
def CommandLine.Stop.exit (stop : Stop) : Exit :=
  if stop.isInformation then
    .success stop.text []
  else
    ⟨stop.exitCode, "", [stop.text]⟩

/-- The whole program: read the command line and carry it out. -/
def Program.run (arguments : List String) (around : Surroundings m) : m Exit :=
  match CommandLine.read arguments with
  | .ok invocation => invocation.execute around
  | .error stop => return stop.exit

end CallLedger

import CallLedger.FileSystem

/-!
# Surroundings

What a program asks of the machine it runs on, as a record of actions.  Each of them may
fail.  The actions may be those of a simulated machine, a file system together with the
standard streams of one program, so that everything a program does can be computed and
reasoned about.

The streams have names among the devices of the file system: what is read under such a
name is standard input, and what is written goes to standard output or standard error.
-/

namespace CallLedger

/-- Why something could not be written under a name, and whether the name had led to something
that was opened by then. -/
structure WriteFault where
  fault : FileFault
  opened : Bool
  deriving DecidableEq, Repr

/-- Actions on files, standard streams and clocks. -/
structure Surroundings (m : Type → Type) where
  readFile : String → m Reading
  /-- Create a file, or replace the contents of one. -/
  writeFile : String → Bytes → m (Except WriteFault Unit)
  /-- Read standard input to its end. -/
  readInput : m Reading
  /-- Write to standard output, and see that it arrives. -/
  writeOutput : Bytes → m (Except FileFault Unit)
  /-- The time of day. -/
  clock : m String
  /-- The time since the program started. -/
  elapsed : m String

/-- A file system and standard streams. -/
structure SimulatedMachine where
  files : FileSystem
  /-- What standard input gives, and the fault that reading it breaks off with. -/
  input : Reading
  /-- What was written to standard output. -/
  output : Bytes
  /-- What was written to standard error under its name. -/
  errors : Bytes
  /-- Why standard output takes nothing, if it does not. -/
  outputFault? : Option FileFault
  deriving DecidableEq, Repr

namespace SimulatedMachine

/-- A machine with intact streams on which nothing was written. -/
def start (files : FileSystem) (input : Bytes) : SimulatedMachine :=
  ⟨files, .whole input, [], [], none⟩

def receive (machine : SimulatedMachine) : Device → Reading
  | .input => machine.input
  | .null | .full | .output | .errors => .whole []

/-- Why a device takes nothing, if it does not. -/
def refusal? (machine : SimulatedMachine) : Device → Option FileFault
  | .full => some .noSpace
  | .output => machine.outputFault?
  | .null | .input | .errors => none

/-- Write to a device.  Nothing can be refused where nothing is written. -/
def send (machine : SimulatedMachine) (contents : Bytes) (device : Device) :
    Except FileFault SimulatedMachine :=
  match machine.refusal? device, contents with
  | some fault, _ :: _ => .error fault
  | _, _ =>
      match device with
      | .output => .ok { machine with output := machine.output ++ contents }
      | .errors => .ok { machine with errors := machine.errors ++ contents }
      | .null | .full | .input => .ok machine

def readAt (machine : SimulatedMachine) (path : Path) : Reading :=
  match machine.files.get? path with
  | some (.file contents) => .whole contents
  | some (.device device) => machine.receive device
  | some .directory | none => .whole []

/-- Write at a path, which creates a file or replaces the contents of one if the path does
not lead to a device. -/
def put (machine : SimulatedMachine) (path : Path) (contents : Bytes) :
    Except FileFault SimulatedMachine :=
  match machine.files.get? path with
  | some (.device device) => machine.send contents device
  | _ => .ok { machine with files := machine.files.put path (.file contents) }

/-- What reading the file or device of some name gives. -/
def reading (machine : SimulatedMachine) (name : String) : Reading :=
  match machine.files.find name with
  | .error fault => .refused fault
  | .ok path => machine.readAt path

/-- Read all that a name leads to. -/
def read (machine : SimulatedMachine) (name : String) : Except FileFault Bytes :=
  (machine.reading name).all

/-- Write to the file or device of some name. -/
def write (machine : SimulatedMachine) (name : String) (contents : Bytes) :
    Except FileFault SimulatedMachine := do
  machine.put (← machine.files.findOrNew name) contents

end SimulatedMachine

namespace Surroundings

def simulatedWrite (name : String) (contents : Bytes) :
    StateM SimulatedMachine (Except WriteFault Unit) := fun machine =>
  match machine.write name contents with
  | .ok after => (.ok (), after)
  | .error fault => (.error ⟨fault, (machine.files.findOrNew name).isOk⟩, machine)

def simulatedOutput (contents : Bytes) : StateM SimulatedMachine (Except FileFault Unit) :=
  fun machine =>
    match machine.send contents .output with
    | .ok after => (.ok (), after)
    | .error fault => (.error fault, machine)

/-- The surroundings on a simulated machine with these times. -/
def simulated (clock elapsed : String) : Surroundings (StateM SimulatedMachine) where
  readFile name := fun machine => (machine.reading name, machine)
  writeFile := simulatedWrite
  readInput := fun machine => (machine.receive .input, machine)
  writeOutput := simulatedOutput
  clock := pure clock
  elapsed := pure elapsed

end Surroundings

end CallLedger

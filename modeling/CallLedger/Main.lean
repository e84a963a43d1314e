import CallLedger.Program
import Std.Time.Format
import Std.Time.Zoned

/-!
# The program on a real machine

The surroundings that the operating system offers, and the entry point.
-/

namespace CallLedger.Machine

/-- The reason for a failed access to a file, by its number and description. -/
def faultOfCode (code : UInt32) (description : String) : FileFault :=
  match code.toNat with
  | 2 => .notFound
  | 20 => .notDirectory
  | 21 => .isDirectory
  | 28 => .noSpace
  | 32 => .brokenPipe
  | 36 => .nameTooLong
  | _ => .other (description ++ " (os error " ++ toString code ++ ")")

def faultOf : IO.Error → FileFault
  | .noFileOrDirectory .. => .notFound
  | .inappropriateType _ code description
  | .invalidArgument _ code description
  | .permissionDenied _ code description
  | .resourceExhausted _ code description
  | .noSuchThing _ code description
  | .alreadyExists _ code description
  | .resourceVanished code description
  | .hardwareFault code description
  | .otherError code description => faultOfCode code description
  | error => .other (toString error)

/-- Do something that may fail for a reason that is to be kept. -/
def attempt (action : IO α) : IO (Except FileFault α) := do
  return (← action.toBaseIO).mapError faultOf

def openFile (name : String) (mode : IO.FS.Mode) : IO (Except FileFault IO.FS.Handle) :=
  if name.toList.contains '\x00' then
    return .error .nulInName
  else
    attempt (IO.FS.Handle.mk name mode)

/-- What is left of a stream, after some bytes that were read already. -/
partial def readStream (stream : IO.FS.Stream) (before : ByteArray) : IO Reading := do
  match ← attempt (stream.read 65536) with
  | .error fault => return ⟨before.toList, some fault⟩
  | .ok next =>
      if next.isEmpty then return .whole before.toList else readStream stream (before ++ next)

/-- Write to a stream, and see that it arrives. -/
def writeStream (stream : IO.FS.Stream) (contents : Bytes) : IO (Except FileFault Unit) :=
  attempt do
    stream.write ⟨contents.toArray⟩
    stream.flush

def clock : IO String := do
  return (← Std.Time.PlainDateTime.now).format "uuuu-MM-dd HH:mm:ss"

/-- The time since a moment, in milliseconds. -/
def elapsedSince (start : Nat) : IO String := do
  return toString ((← IO.monoMsNow) - start) ++ "ms"

/-- The surroundings of a program that started at a moment. -/
def surroundings (start : Nat) : Surroundings IO where
  readFile name := do
    match ← openFile name .read with
    | .error fault => return .refused fault
    | .ok handle => readStream (.ofHandle handle) .empty
  writeFile name contents := do
    match ← openFile name .write with
    | .error fault => return .error ⟨fault, false⟩
    | .ok handle => return (← writeStream (.ofHandle handle) contents).mapError (⟨·, true⟩)
  readInput := do readStream (← IO.getStdin) .empty
  writeOutput contents := do writeStream (← IO.getStdout) contents
  clock := clock
  elapsed := elapsedSince start

end CallLedger.Machine

/-- Run the program on the arguments of its command line. -/
def main (arguments : List String) : IO UInt32 := do
  let start ← IO.monoMsNow
  let exit ← CallLedger.Program.run arguments (CallLedger.Machine.surroundings start)
  for line in exit.errors do
    IO.eprintln line
  IO.print exit.output
  return exit.code.toUInt32

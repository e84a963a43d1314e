/-!
# Input

Files and streams hold bytes, and text is stored as UTF-8.  Reading may break off with a
fault: then the bytes that came before it are known, and what would have followed them is
not.  Whoever reads line by line has seen the complete lines among those bytes by then.
-/

namespace CallLedger

/-- Contents of a file or stream. -/
abbrev Bytes := List UInt8

namespace Bytes

def ofText (text : String) : Bytes :=
  text.toUTF8.toList

/-- The text that bytes stand for, if they are UTF-8. -/
def toText? (bytes : Bytes) : Option String :=
  String.fromUTF8? ⟨bytes.toArray⟩

/-- Bytes up to their last line feed. -/
def completeLines (bytes : Bytes) : Bytes :=
  (bytes.reverse.dropWhile (· != 10)).reverse

end Bytes

/-- Why a file or stream could not be read or written. -/
inductive FileFault where
  | notFound
  | notDirectory
  | isDirectory
  | nameTooLong
  | nulInName
  /-- A device takes no more. -/
  | noSpace
  /-- Nobody reads what is written. -/
  | brokenPipe
  /-- Any other reason that a machine may have. -/
  | other (reason : String)
  deriving DecidableEq, Repr

def FileFault.message : FileFault → String
  | .other reason => reason
  | .notFound => "No such file or directory (os error 2)"
  | .notDirectory => "Not a directory (os error 20)"
  | .isDirectory => "Is a directory (os error 21)"
  | .nameTooLong => "File name too long (os error 36)"
  | .nulInName => "file name contained an unexpected NUL byte"
  | .noSpace => "No space left on device (os error 28)"
  | .brokenPipe => "Broken pipe (os error 32)"

/-- What reading gives: the bytes that came, and the fault that it broke off with, if it did. -/
structure Reading where
  bytes : Bytes
  fault? : Option FileFault
  deriving DecidableEq, Repr

namespace Reading

def whole (bytes : Bytes) : Reading := ⟨bytes, none⟩

/-- A reading that gave nothing, because there was nothing to be opened. -/
def refused (fault : FileFault) : Reading := ⟨[], some fault⟩

/-- All there was to be read, or why not all of it could be. -/
def all (reading : Reading) : Except FileFault Bytes :=
  match reading.fault? with
  | none => .ok reading.bytes
  | some fault => .error fault

/-- What can be handled line by line.  The line that a fault interrupts is lost. -/
def lines (reading : Reading) : Bytes :=
  match reading.fault? with
  | none => reading.bytes
  | some _ => reading.bytes.completeLines

end Reading

end CallLedger

import CallLedger.Binary64.Printing
import CallLedger.FileSystem
import CallLedger.Folded.Ingest

/-!
# Failures

Why the program gives up, in words, and the exit code that tells it to other programs.
-/

namespace CallLedger

/-- An argument that can be read but makes no sense. -/
inductive ArgumentFault where
  | zeroTop
  | threshold (value : Binary64)
  | zeroEdges
  deriving DecidableEq

def ArgumentFault.message : ArgumentFault → String
  | zeroTop => "--top must be at least 1"
  | threshold value =>
      "Threshold must be between 0 and 100 percent, got " ++ value.text .message
  | zeroEdges => "--max-edges must be at least 1"

/-- Why the program gives up. -/
inductive Failure where
  /-- A sample count cannot be read. -/
  | unreadableCount (error : Folded.CountError)
  /-- The input is not text. -/
  | invalidText
  /-- The input cannot be read, or the output cannot be written. -/
  | file (fault : FileFault)
  | invalidArgument (fault : ArgumentFault)
  /-- The contract of a profile was broken. -/
  | violated (violation : Violation)
  deriving DecidableEq

namespace Failure

/-- A failed ingestion as a failure of the program. -/
def ofFault : Folded.Fault → Failure
  | .invalidText => invalidText
  | .invalidCount error => unreadableCount error
  | .refused violation => violated violation

/-- What went wrong with a file or stream, where that is the cause. -/
def cause? : Failure → Option String
  | invalidText => some "stream did not contain valid UTF-8"
  | file fault => some fault.message
  | _ => none

def message : Failure → String
  | unreadableCount error => error.message
  | invalidArgument fault => "Invalid argument: " ++ fault.message
  | violated violation => violation.message
  | failure => "I/O error: " ++ failure.cause?.getD ""

/-- Wording of a failure followed by that of its cause. -/
def chain (failure : Failure) : String :=
  match failure.cause? with
  | some cause => failure.message ++ ": " ++ cause
  | none => failure.message

def exitCode : Failure → Nat
  | invalidArgument _ => 2
  | violated _ => 101
  | _ => 1

end Failure

/-- What the program tells when it gives up: a failure or some other reason, behind all that it
was busy with. -/
inductive Complaint where
  | failure (reason : Failure)
  | other (reason : String)
  | during (activity : String) (complaint : Complaint)

namespace Complaint

/-- The failure behind a complaint, if there is one. -/
def failure? : Complaint → Option Failure
  | failure reason => some reason
  | other _ => none
  | during _ complaint => complaint.failure?

/-- Wording of a complaint, from what the program was busy with to the reason. -/
def chain : Complaint → String
  | failure reason => reason.chain
  | other reason => reason
  | during activity complaint => activity ++ ": " ++ complaint.chain

def exitCode (complaint : Complaint) : Nat :=
  match complaint.failure? with
  | some reason => reason.exitCode
  | none => 1

end Complaint

end CallLedger

/-!
# Contract violations

Requests that break the contract between a profile and its user.  Each is found
before anything is changed.
-/

namespace CallLedger

/-- A request that the caller promised not to make. -/
inductive Violation where
  /-- A return although no call is active. -/
  | exitAtRoot
  /-- A tail call although no call is active. -/
  | tailCallAtRoot
  /-- A thread ended with this many of its calls still open. -/
  | openCalls (calls : Nat)
  /-- A profile was asked of a graph that lacks rows for registered blocks. -/
  | uncoveredBlocks (rows blocks : Nat)
  /-- A block was asked of a profile that does not have it. -/
  | noSuchBlock (size index : Nat)
  deriving DecidableEq, Repr

def Violation.message : Violation → String
  | .exitAtRoot =>
      "profile thread: exit with no active call (the root frame can never be exited)"
  | .tailCallAtRoot =>
      "profile thread: auto-exit with no active call (the root frame can never be exited)"
  | .openCalls calls =>
      s!"profile thread dropped with {calls} unmatched enter_call(s)"
  | .uncoveredBlocks rows blocks =>
      s!"call graph covers {rows} blocks but the registry holds {blocks}"
  | .noSuchBlock size index =>
      s!"index out of bounds: the len is {size} but the index is {index}"

end CallLedger

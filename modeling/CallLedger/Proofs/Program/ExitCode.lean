import CallLedger.Proofs.Program.Delivery
import CallLedger.Proofs.Program.Limits

/-!
# How the program ends

The program ends with 2 if a limit makes no sense, and then it has not looked at its
surroundings at all.  It ends with 1 if the input cannot be loaded or the output cannot be
written, be it a file or standard output, and with 0 otherwise.  The code is that of the failure,
whatever the program was busy with when it met it.
-/

namespace CallLedger

namespace Complaint

/-- A failure behind all that the program was busy with. -/
def within (activities : List String) (reason : Failure) : Complaint :=
  activities.foldr .during (.failure reason)

end Complaint

namespace Job

variable {job : Job} {machine : SimulatedMachine} {reason : Failure} {clock : String}

/-- The end of a program whose limits make no sense. -/
def refusal (fault : ArgumentFault) : Exit :=
  .failure (.during "Invalid arguments" (.failure (.invalidArgument fault))) []

end Job

namespace Program

variable {arguments : List String} {job : Job} {verbosity : Nat}

end Program

end CallLedger

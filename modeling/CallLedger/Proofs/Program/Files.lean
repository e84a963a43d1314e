import CallLedger.Surroundings

/-!
# What a write does

A write looks up the path that its name leads to.  It fails if there is none or if the device
there takes nothing, and then nothing changes.  Otherwise the path leads to what was written,
unless a device took it, and every other path leads to what it led to.
-/

namespace CallLedger

namespace FileSystem

variable {files : FileSystem} {text : String} {path : Path} {entry : Entry}

variable (kept : files.get? path ≠ some .directory)
include kept

end FileSystem

namespace SimulatedMachine

variable {machine after : SimulatedMachine} {name : String} {path : Path} {contents : Bytes}
  {fault : FileFault}

end SimulatedMachine

end CallLedger

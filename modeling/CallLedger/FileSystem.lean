import CallLedger.Input

/-!
# Files

A small file system: a tree of directories, files and devices, written as a list of
entries by path.  Names are looked up from the root or from the working directory.  What
is read has to exist; what is written may be new, but never makes a new directory.
-/

namespace CallLedger

/-- Names of the directories from the root on, and of the entry itself. -/
abbrev Path := List String

/-- Something other than a file that can be read or written. -/
inductive Device where
  /-- Gives nothing and keeps nothing. -/
  | null
  /-- Takes nothing. -/
  | full
  /-- Standard input. -/
  | input
  /-- Standard output. -/
  | output
  /-- Standard error. -/
  | errors
  deriving DecidableEq, Repr

/-- What a path leads to. -/
inductive Entry where
  | directory
  | file (contents : Bytes)
  | device (device : Device)
  deriving DecidableEq, Repr

/-- A working directory and the entries below the root, each path at most once. -/
structure FileSystem where
  home : Path
  entries : List (Path × Entry)
  deriving DecidableEq, Repr, Inhabited

/-- Result of looking up all but the last name of a path. -/
inductive Place where
  /-- The path leads back to a directory. -/
  | directory
  /-- The path names an entry of an existing directory.  A slash after the name asks
  for a directory. -/
  | entry (path : Path) (asDirectory : Bool)
  deriving DecidableEq, Repr

namespace FileSystem

def empty : FileSystem := ⟨[], []⟩

def systemDirectories : List Path :=
  ["bin", "boot", "dev", "etc", "home", "lib", "mnt", "opt", "proc", "root", "run", "sbin",
    "srv", "sys", "tmp", "usr", "var"].map ([·]) ++
    [["dev", "fd"], ["dev", "shm"], ["proc", "self"], ["proc", "self", "fd"], ["usr", "bin"],
      ["usr", "lib"], ["usr", "local"], ["usr", "share"], ["var", "log"], ["var", "tmp"]]

/-- Devices that every machine has; the streams have their numbers as names, too. -/
def systemDevices : List (Path × Device) :=
  [(["dev", "null"], .null), (["dev", "full"], .full)] ++
    [("stdin", "0", Device.input), ("stdout", "1", .output), ("stderr", "2", .errors)].flatMap
      fun (name, number, device) =>
        [(["dev", name], device), (["dev", "fd", number], device),
          (["proc", "self", "fd", number], device)]

def freshHome : Path := ["tmp", "call-ledger"]

/-- A file system with an empty working directory. -/
def fresh : FileSystem :=
  ⟨freshHome, (freshHome :: systemDirectories).map (·, .directory) ++
    systemDevices.map fun (path, device) => (path, .device device)⟩

def get? (files : FileSystem) (path : Path) : Option Entry :=
  if path.isEmpty then some .directory else files.entries.lookup path

/-- Put an entry in the place of what the path led to. -/
def put (files : FileSystem) (path : Path) (entry : Entry) : FileSystem :=
  { files with entries := (path, entry) :: files.entries.filter (·.1 != path) }

/-- Number of bytes that one name may have. -/
def nameLimit : Nat := 255

/-- Number of bytes that the text of a path has to stay below. -/
def pathLimit : Nat := 4096

/-- Go from a directory to the one that a name stands for. -/
def descend (files : FileSystem) (directory : Path) (name : String) :
    Except FileFault Path :=
  if name = "." then .ok directory
  else if name = ".." then .ok directory.dropLast
  else if nameLimit < name.utf8ByteSize then .error .nameTooLong
  else
    match files.get? (directory ++ [name]) with
    | some .directory => .ok (directory ++ [name])
    | some _ => .error .notDirectory
    | none => .error .notFound

/-- The directory from which a text is looked up. -/
def start (files : FileSystem) (text : String) : Path :=
  if text.toList.head? = some '/' then [] else files.home

/-- Names between the slashes of a path. -/
def names (text : String) : List String :=
  ((text.toList.splitOn '/').filter (!·.isEmpty)).map String.ofList

/-- Put a directory below another one, unless something is there. -/
def makeDirectoryIn (files : FileSystem) (parent : Path) (name : String) : FileSystem :=
  if (files.get? (parent ++ [name])).isSome then files
  else files.put (parent ++ [name]) .directory

/-- Put the directories that a path names, each below the one before it. -/
def makeDirectory (files : FileSystem) (text : String) : FileSystem :=
  ((names text).foldl (fun (files, parent) name =>
    (files.makeDirectoryIn parent name, parent ++ [name])) (files, files.start text)).1

/-- What the last name of a path stands for, in the directory that the names before it lead
to. -/
def placeIn (text : String) (directory : Path) : Except FileFault Place :=
  match (names text).getLast? with
  | none => .ok .directory
  | some name =>
      if name = "." || name = ".." then .ok .directory
      else if nameLimit < name.utf8ByteSize then .error .nameTooLong
      else .ok (.entry (directory ++ [name]) (text.toList.getLast? == some '/'))

/-- Look up the directories of a path. -/
def locate (files : FileSystem) (text : String) : Except FileFault Place :=
  if text.toList.contains '\x00' then .error .nulInName
  else if text.isEmpty then .error .notFound
  else if pathLimit ≤ text.utf8ByteSize then .error .nameTooLong
  else do
    placeIn text (← (names text).dropLast.foldlM files.descend (files.start text))

/-- Path of the file or device of some name. -/
def find (files : FileSystem) (text : String) : Except FileFault Path := do
  match ← files.locate text with
  | .directory => throw .isDirectory
  | .entry path asDirectory =>
      match files.get? path with
      | none => throw .notFound
      | some .directory => throw .isDirectory
      | some _ => if asDirectory then throw .notDirectory else return path

/-- Whether nobody can make files at a path, because the entries there stand for
processes. -/
def isReserved (path : Path) : Bool :=
  path.head? == some "proc"

/-- Path of the file or device of some name, which may be the path of a new file. -/
def findOrNew (files : FileSystem) (text : String) : Except FileFault Path := do
  match ← files.locate text with
  | .directory => throw .isDirectory
  | .entry path asDirectory =>
      -- A slash at the end is refused without a look at what is there.
      if asDirectory then throw .isDirectory
      else
        match files.get? path with
        | some .directory => throw .isDirectory
        | some _ => return path
        | none => if isReserved path then throw .notFound else return path

end FileSystem

end CallLedger

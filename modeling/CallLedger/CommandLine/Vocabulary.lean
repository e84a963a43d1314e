import CallLedger.Binary64.Reading
import CallLedger.Invocation

/-!
# Words of command lines

The switches and parameters that each command knows, by their long and short names, and
how the value of each kind of parameter is read.
-/

namespace CallLedger

def Format.name : Format → String
  | report => "report"
  | table => "table"
  | json => "json"
  | csv => "csv"

def Format.all : List Format := [.report, .table, .json, .csv]

def Shell.name : Shell → String
  | bash => "bash"
  | elvish => "elvish"
  | fish => "fish"
  | powershell => "powershell"
  | zsh => "zsh"

def Shell.all : List Shell := [.bash, .elvish, .fish, .powershell, .zsh]

namespace CommandLine

/-- An option without a value. -/
inductive Switch where
  | verbose
  | skipHeader
  | demangle
  | help
  | version
  deriving DecidableEq, Repr

/-- An option or operand that has a value. -/
inductive Parameter where
  | file
  | format
  | top
  | threshold
  | maxEdges
  | output
  | shell
  deriving DecidableEq, Repr

/-- What a name stands for. -/
inductive Word where
  | switch (switch : Switch)
  | parameter (parameter : Parameter)
  deriving DecidableEq, Repr

/-- The names that a command knows. -/
structure Vocabulary where
  long : List (String × Word)
  short : List (Char × Word)
  /-- Operands in their order. -/
  operands : List Parameter

namespace Vocabulary

/-- Names before any command. -/
def program : Vocabulary where
  long := [("verbose", .switch .verbose), ("help", .switch .help), ("version", .switch .version)]
  short := [('v', .switch .verbose), ('h', .switch .help), ('V', .switch .version)]
  operands := []

/-- Names for a job. -/
def fold : Vocabulary where
  long :=
    [("skip-header", .switch .skipHeader), ("demangle", .switch .demangle),
      ("format", .parameter .format), ("top", .parameter .top),
      ("threshold", .parameter .threshold), ("max-edges", .parameter .maxEdges),
      ("output", .parameter .output), ("verbose", .switch .verbose), ("help", .switch .help)]
  short :=
    [('f', .parameter .format), ('n', .parameter .top), ('t', .parameter .threshold),
      ('o', .parameter .output), ('v', .switch .verbose), ('h', .switch .help)]
  operands := [.file]

/-- Names for a completion script. -/
def complete : Vocabulary where
  long := [("verbose", .switch .verbose), ("help", .switch .help)]
  short := [('v', .switch .verbose), ('h', .switch .help)]
  operands := [.shell]

end Vocabulary

/-- What may be asked for instead of a command, or done wrong. -/
inductive Stop where
  | help
  | version
  /-- Nothing was asked for. -/
  | nothingAsked
  | missingCommand
  | unknownCommand
  | unknownArgument
  /-- A value is missing, empty where it must not be, or not one of those listed. -/
  | invalidValue
  /-- A value is no number of its kind. -/
  | unreadableValue
  /-- An option other than a request for detail was given twice. -/
  | repeatedOption
  /-- A switch was given a value. -/
  | unexpectedValue
  | missingOperand
  deriving DecidableEq, Repr

namespace Stop

/-- Whether the user asked for information, rather than did something wrong. -/
def isInformation : Stop → Bool
  | help | version => true
  | _ => false

def exitCode (stop : Stop) : Nat :=
  if stop.isInformation then 0 else 2

end Stop

def readFormat (text : String) : Except Stop Format :=
  (Format.all.find? (·.name == text)).elim (.error .invalidValue) .ok

def readShell (text : String) : Except Stop Shell :=
  (Shell.all.find? (·.name == text)).elim (.error .invalidValue) .ok

def readLimit (text : String) : Except Stop Count :=
  match Decimal.readCount text.toList with
  | .ok count => .ok count
  | .error _ => .error .unreadableValue

def readThreshold (text : String) : Except Stop Binary64 :=
  (Binary64.parse? text).elim (.error .unreadableValue) .ok

/-- A file name, which is not empty. -/
def readFileName (text : String) : Except Stop String :=
  if text.isEmpty then .error .invalidValue else .ok text

theorem readFormat_name (format : Format) : readFormat format.name = .ok format := by
  cases format <;> rfl

theorem readShell_name (shell : Shell) : readShell shell.name = .ok shell := by
  cases shell <;> rfl

end CommandLine

end CallLedger

import CallLedger.CommandLine.Draft

/-!
# Command lines

A command line names a command, with options for the program as a whole before it and
the command's own arguments after it.  Requests for more detail may stand on either
side; those after the command count if there are any.
-/

namespace CallLedger.CommandLine

def commandNames : List String := ["folded", "completions", "help"]

/-- The job that a draft describes. -/
def Draft.job (draft : Draft) : Job where
  input := draft.file
  skipHeader := draft.skipHeader
  demangle := draft.demangle
  format := draft.format.getD .report
  top := draft.top.getD 20
  threshold := draft.threshold.getD .zero
  maxEdges := draft.maxEdges
  output := draft.output

/-- How often more detail was asked for, before and after the name of a command. -/
def verbosity (before after : Draft) : Nat :=
  -- What stands behind the command replaces what stands before it.
  if after.verbosity = 0 then before.verbosity else after.verbosity

def readFold (before : Draft) (arguments : List String) : Except Stop Invocation := do
  let draft ← (Draft.start .fold).readAll .fold arguments
  return ⟨.fold draft.job, verbosity before draft⟩

def readComplete (before : Draft) (arguments : List String) : Except Stop Invocation := do
  let draft ← (Draft.start .complete).readAll .complete arguments
  match draft.shell with
  | some shell => return ⟨.complete shell, verbosity before draft⟩
  | none => throw .missingOperand

/-- What a request for help is answered with: help on a command, if the names are those
of commands.  Commands have no commands of their own. -/
def readHelp : List String → Stop
  | [] => .help
  | [name] => if commandNames.contains name then .help else .unknownCommand
  | _ => .unknownCommand

/-- What is wrong with a command line that ends before its command. -/
def withoutCommand (before : Draft) : Stop :=
  if before.verbosity = 0 then .nothingAsked else .missingCommand

/-- What is wrong with a command line that has two dashes in place of its command. -/
def afterDashes (before : Draft) : List String → Stop
  | [] => withoutCommand before
  | text :: _ => if commandNames.contains text then .unknownArgument else .unknownCommand

/-- Read a command line after some of the options before its command. -/
def readFrom (before : Draft) : List String → Except Stop Invocation
  | [] => .error (withoutCommand before)
  | "--" :: rest => .error (afterDashes before rest)
  | "folded" :: rest => readFold before rest
  | "completions" :: rest => readComplete before rest
  | "help" :: rest => .error (readHelp rest)
  | text :: rest =>
      if text.toList.head? = some '-' && text != "-" then do
        readFrom (← before.read .program text) rest
      else
        .error .unknownCommand

def read (arguments : List String) : Except Stop Invocation :=
  readFrom (.start .program) arguments

end CallLedger.CommandLine

import CallLedger.Job

/-!
# Invocations

What a user asks of the program: a job, or a short script that offers the program's
commands and options to a shell which completes command lines.
-/

namespace CallLedger

/-- Shells whose command lines can be completed. -/
inductive Shell where
  | bash
  | elvish
  | fish
  | powershell
  | zsh
  deriving DecidableEq, Repr

/-- What the program is to do. -/
inductive Command where
  | fold (job : Job)
  | complete (shell : Shell)
  deriving DecidableEq

/-- A command, and how much is to be told about its progress. -/
structure Invocation where
  command : Command
  /-- How often more detail was asked for. -/
  verbosity : Nat
  deriving DecidableEq

def Command.validate : Command → Except ArgumentFault Unit
  | .fold job => job.validate
  | .complete _ => .ok ()

/-- The level of the log lines to show. -/
def Invocation.logLevel (invocation : Invocation) : LogLevel :=
  .ofVerbosity invocation.verbosity

def programName : String := "cgprof"

/-- Words that may stand on a command line. -/
def completionWords : List String :=
  ["folded", "completions", "help", "--skip-header", "--demangle", "--format", "--top",
    "--threshold", "--max-edges", "--output", "--verbose", "--help", "--version"]

def singleQuoted (text : String) : String :=
  "'" ++ text ++ "'"

namespace Shell

/-- The script for a shell. -/
def completion : Shell → String
  | bash =>
      "complete -o default -W " ++ singleQuoted (" ".intercalate completionWords) ++ " " ++
        programName ++ "\n"
  | elvish =>
      "set edit:completion:arg-completer[" ++ programName ++ "] = \x7b|@words|\n  put " ++
        " ".intercalate completionWords ++ "\n\x7d\n"
  | fish =>
      "complete -c " ++ programName ++ " -a " ++
        singleQuoted (" ".intercalate completionWords) ++ "\n"
  | powershell =>
      "Register-ArgumentCompleter -Native -CommandName " ++ programName ++
        " -ScriptBlock \x7b\n  param($word)\n  " ++
        ", ".intercalate (completionWords.map singleQuoted) ++
        " | Where-Object \x7b $_.StartsWith($word) \x7d\n\x7d\n"
  | zsh =>
      "#compdef " ++ programName ++ "\ncompadd -- " ++ " ".intercalate completionWords ++ "\n"

end Shell

end CallLedger

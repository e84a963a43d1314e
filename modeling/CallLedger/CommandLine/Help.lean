import CallLedger.CommandLine.Vocabulary

/-!
# Help

What the program tells about itself and about command lines that it cannot carry out.
-/

namespace CallLedger.CommandLine

def programVersion : String := "0.1.0"

/-- Summary of the commands and options. -/
def helpText : String :=
  String.join ([
    "Call-graph profile reports from folded stack samples",
    "",
    "Usage: " ++ programName ++ " [-v]... folded [OPTIONS] [FILE]",
    "       " ++ programName ++ " [-v]... completions <SHELL>",
    "       " ++ programName ++ " help [COMMAND]",
    "",
    "Options of folded:",
    "      --skip-header            Ignore the first input line",
    "      --demangle               Demangle Rust symbol names",
    "  -f, --format <FORMAT>        report, table, json or csv [default: report]",
    "  -n, --top <TOP>              Number of blocks to list [default: 20]",
    "  -t, --threshold <THRESHOLD>  Minimum percentage of total time to list [default: 0]",
    "      --max-edges <MAX_EDGES>  Callers and callees shown per call graph entry",
    "  -o, --output <OUTPUT>        Write output here instead of stdout",
    "",
    "Shells: bash, elvish, fish, powershell, zsh",
    "",
    "Other options:",
    "  -v, --verbose                Increase log verbosity",
    "  -h, --help                   Print help",
    "  -V, --version                Print version"].map (· ++ "\n"))

/-- What is told instead of carrying out a command. -/
def Stop.text : Stop → String
  | help => helpText
  | version => programName ++ " " ++ programVersion ++ "\n"
  | nothingAsked => helpText
  | missingCommand => "error: a command is required"
  | unknownCommand => "error: unrecognized command"
  | unknownArgument => "error: unexpected argument"
  | invalidValue => "error: missing or invalid value of an argument"
  | unreadableValue => "error: value of an argument cannot be read"
  | repeatedOption => "error: an option is given twice"
  | unexpectedValue => "error: unexpected value of an option"
  | missingOperand => "error: a required argument is missing"

end CallLedger.CommandLine

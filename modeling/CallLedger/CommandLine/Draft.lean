import CallLedger.CommandLine.Vocabulary

/-!
# Reading the arguments of a command

A draft collects what the arguments read so far have said.  A parameter whose value has
not been looked at yet is pending: its value is judged when the next known argument
arrives or the arguments end, so an unknown argument is reported before a value that
cannot be read.
-/

namespace CallLedger.CommandLine

/-- What the arguments read so far have said. -/
structure Draft where
  verbosity : Nat
  skipHeader : Bool
  demangle : Bool
  file : Option String
  format : Option Format
  top : Option Count
  threshold : Option Binary64
  maxEdges : Option Count
  output : Option String
  shell : Option Shell
  /-- The parameter that was named last, with its value if that has arrived. -/
  pending : Option (Parameter × Option String)
  /-- Operands that have not been given yet. -/
  operands : List Parameter

namespace Draft

/-- The draft before any argument of a command. -/
def start (vocabulary : Vocabulary) : Draft where
  verbosity := 0
  skipHeader := false
  demangle := false
  file := none
  format := none
  top := none
  threshold := none
  maxEdges := none
  output := none
  shell := none
  pending := none
  operands := vocabulary.operands

/-- The most that asking for more detail is counted. -/
def mostVerbose : Nat := 255

def has (draft : Draft) : Parameter → Bool
  | .file => draft.file.isSome
  | .format => draft.format.isSome
  | .top => draft.top.isSome
  | .threshold => draft.threshold.isSome
  | .maxEdges => draft.maxEdges.isSome
  | .output => draft.output.isSome
  | .shell => draft.shell.isSome

def set (draft : Draft) (parameter : Parameter) (text : String) : Except Stop Draft :=
  match parameter with
  | .file => return { draft with file := some (← readFileName text) }
  | .format => return { draft with format := some (← readFormat text) }
  | .top => return { draft with top := some (← readLimit text) }
  | .threshold => return { draft with threshold := some (← readThreshold text) }
  | .maxEdges => return { draft with maxEdges := some (← readLimit text) }
  | .output => return { draft with output := some (← readFileName text) }
  | .shell => return { draft with shell := some (← readShell text) }

/-- Give a parameter its value; it must not have one yet. -/
def assign (draft : Draft) (parameter : Parameter) (text : String) : Except Stop Draft :=
  if draft.has parameter then .error .repeatedOption else draft.set parameter text

/-- Give the pending parameter its value. -/
def settle (draft : Draft) : Except Stop Draft :=
  match draft.pending with
  | none => .ok draft
  | some (_, none) => .error .invalidValue
  | some (parameter, some text) => { draft with pending := none }.assign parameter text

/-- Name a parameter whose value, if any, is judged later. -/
def await (draft : Draft) (parameter : Parameter) (text : Option String) :
    Except Stop Draft :=
  return { ← draft.settle with pending := some (parameter, text) }

/-- Name a parameter together with its value. -/
def assignNow (draft : Draft) (parameter : Parameter) (text : String) :
    Except Stop Draft := do
  (← draft.settle).assign parameter text

def turnOn (draft : Draft) (switch : Switch) : Except Stop Draft := do
  let draft ← draft.settle
  -- Only a request for more detail may be repeated.
  match switch with
  | .verbose => return { draft with verbosity := min (draft.verbosity + 1) mostVerbose }
  | .skipHeader =>
      if draft.skipHeader then throw .repeatedOption
      return { draft with skipHeader := true }
  | .demangle =>
      if draft.demangle then throw .repeatedOption
      return { draft with demangle := true }
  | .help => throw .help
  | .version => throw .version

/-- A value without the equals sign before it. -/
def withoutEquals : List Char → List Char
  | '=' :: value => value
  | value => value

/-- Read the names of a run of short options.  What follows the name of a parameter is
its value, and an equals sign may stand between them. -/
def readShort (vocabulary : Vocabulary) (draft : Draft) : List Char → Except Stop Draft
  | [] => .ok draft
  | name :: rest =>
      match vocabulary.short.lookup name with
      | none => .error .unknownArgument
      | some (.switch switch) => do
          readShort vocabulary (← draft.turnOn switch) rest
      | some (.parameter parameter) =>
          if rest.isEmpty then
            draft.await parameter none
          else
            draft.assignNow parameter (String.ofList (withoutEquals rest))

/-- Read a long option, with its value after an equals sign if there is one. -/
def readLong (vocabulary : Vocabulary) (draft : Draft) (text : List Char) :
    Except Stop Draft :=
  let name := String.ofList (text.takeWhile (· != '='))
  match vocabulary.long.lookup name, text.dropWhile (· != '=') with
  | none, _ => .error .unknownArgument
  | some (.switch switch), [] => draft.turnOn switch
  | some (.switch _), _ :: _ => .error .unexpectedValue
  | some (.parameter parameter), [] => draft.await parameter none
  | some (.parameter parameter), _ :: value =>
      draft.assignNow parameter (String.ofList value)

def readOperand (draft : Draft) (text : String) : Except Stop Draft :=
  match draft.operands with
  | [] => .error .unknownArgument
  | parameter :: rest => { draft with operands := rest }.await parameter (some text)

/-- Read an argument that is no option: the value of a pending parameter that lacks
one, and an operand otherwise. -/
def readValue (draft : Draft) (text : String) : Except Stop Draft :=
  match draft.pending with
  | some (parameter, none) => .ok { draft with pending := some (parameter, some text) }
  | _ => draft.readOperand text

def read (vocabulary : Vocabulary) (draft : Draft) (text : String) : Except Stop Draft :=
  match text.toList with
  | '-' :: '-' :: name => draft.readLong vocabulary name
  | '-' :: name :: rest => draft.readShort vocabulary (name :: rest)
  -- A dash on its own is no option.
  | _ => draft.readValue text

/-- Read the arguments of a command to their end.  After two dashes on their own there
are only operands. -/
def readAll (vocabulary : Vocabulary) (draft : Draft) : List String → Except Stop Draft
  | [] => draft.settle
  | text :: rest => do
      if text = "--" then
        (← rest.foldlM readOperand draft).settle
      else
        readAll vocabulary (← draft.read vocabulary text) rest

end Draft

end CallLedger.CommandLine

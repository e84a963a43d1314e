/-!
# Comma-separated values

A record is a line of fields with commas between them.  A field that may hold anything
is written in quotes with every quote in it doubled, so that commas, quotes and line
ends inside of it stay apart from those of the record.
-/

namespace CallLedger.Csv

/-- A field of a record. -/
inductive Field where
  /-- Text without commas, quotes and line ends. -/
  | bare (text : String)
  /-- Any text. -/
  | quoted (text : String)
  deriving DecidableEq, Repr

def doubleQuotes (text : List Char) : List Char :=
  text.flatMap fun char => if char = '"' then ['"', '"'] else [char]

namespace Field

def value : Field → String
  | bare text => text
  | quoted text => text

/-- A field as it is written. -/
def write : Field → List Char
  | bare text => text.toList
  | quoted text => '"' :: doubleQuotes text.toList ++ ['"']

end Field

/-- Fields with commas between them. -/
def writeFields : List Field → List Char
  | [] => []
  | [field] => field.write
  | field :: rest => field.write ++ ',' :: writeFields rest

/-- Text of records, each with a line feed. -/
def render (records : List (List Field)) : String :=
  String.ofList (records.flatMap fun record => writeFields record ++ ['\n'])

end CallLedger.Csv

import CallLedger.Binary64.Printing

/-!
# JSON documents

A document is a value; its text has one member or item on each line, indented by two
blanks for every array or object around it.
-/

namespace CallLedger

inductive Json where
  | whole (value : Nat)
  | number (value : Binary64)
  | text (content : String)
  | array (items : List Json)
  /-- Members in the order in which they are written. -/
  | object (members : List (String × Json))

namespace Json

/-- A character as it is written inside of a text: quotes, backslashes and control
characters are escaped. -/
def escape (char : Char) : List Char :=
  match char with
  | '"' => ['\\', '"']
  | '\\' => ['\\', '\\']
  | '\x08' => ['\\', 'b']
  | '\x0c' => ['\\', 'f']
  | '\n' => ['\\', 'n']
  | '\r' => ['\\', 'r']
  | '\t' => ['\\', 't']
  | char =>
      if char.toNat < 0x20 then
        '\\' :: 'u' :: (Nat.toDigits 16 char.toNat).leftpad 4 '0'
      else
        [char]

def quoted (text : String) : List Char :=
  '"' :: text.toList.flatMap escape ++ ['"']

/-- A number; there is no notation for what is not finite. -/
def numberText : Binary64 → List Char
  | .finite negative quanta =>
      ((Binary64.finite negative quanta).text .document).toList
  | _ => "null".toList

/-- Start of a line at some depth. -/
def newLine (depth : Nat) : List Char :=
  '\n' :: List.replicate (2 * depth) ' '

mutual

/-- Text of a value at some depth. -/
def write (depth : Nat) : Json → List Char
  | .whole value => Nat.toDigits 10 value
  | .number value => numberText value
  | .text content => quoted content
  | .array [] => ['[', ']']
  | .array (first :: rest) =>
      '[' :: newLine (depth + 1) ++ write (depth + 1) first ++
        writeItems (depth + 1) rest ++ newLine depth ++ [']']
  | .object [] => ['\x7b', '\x7d']
  | .object ((key, value) :: rest) =>
      '\x7b' :: newLine (depth + 1) ++ quoted key ++ ':' :: ' ' ::
        write (depth + 1) value ++ writeMembers (depth + 1) rest ++ newLine depth ++
          ['\x7d']

/-- Text of the items after the first of an array. -/
def writeItems (depth : Nat) : List Json → List Char
  | [] => []
  | item :: rest =>
      ',' :: newLine depth ++ write depth item ++ writeItems depth rest

/-- Text of the members after the first of an object. -/
def writeMembers (depth : Nat) : List (String × Json) → List Char
  | [] => []
  | (key, value) :: rest =>
      ',' :: newLine depth ++ quoted key ++ ':' :: ' ' :: write depth value ++
        writeMembers depth rest

end

def render (document : Json) : String :=
  String.ofList (document.write 0)

end Json

end CallLedger

import CallLedger.Binary64.Reading
import Mathlib.Algebra.Field.Rat
import Mathlib.Data.Rat.Defs

/-!
# A reader of JSON

The reader goes through a text character by character.  Characters make up lexemes: marks, texts
in quotes, and words, which are the numbers and the three names.  Complete lexemes go to a parser
that keeps the arrays and objects around the present place on a stack.  Everything that is not
one value with blanks around it is refused: marks out of place, names in wrong spelling, numbers
with leading zeros or without digits, unknown escapes, control characters in texts and halves of
surrogate pairs.
-/

namespace CallLedger

/-- What a JSON text says.  Numbers are exact. -/
inductive JsonValue where
  | null
  | bool (value : Bool)
  | number (value : ℚ)
  | text (content : String)
  | array (items : List JsonValue)
  /-- Members in the order in which they stand in the text. -/
  | object (members : List (String × JsonValue))

namespace Json

/-- The number that digits stand for if the decimal point is moved by some places. -/
def decimalValue (digits : List Char) (exponent : Int) : ℚ :=
  Nat.ofDigitChars 10 digits 0 * 10 ^ exponent

/-- Whether digits may stand in front of a decimal point: there is one, and a zero stands
alone. -/
def isWholePart : List Char → Bool
  | [] => false
  | first :: rest => first ≠ '0' || rest.isEmpty

/-- Read a number without its sign. -/
def readMagnitude? (word : List Char) : Option ℚ :=
  let whole := word.takeWhile Char.isDigit
  if isWholePart whole then
    match word.dropWhile Char.isDigit with
    | '.' :: rest =>
        let fraction := rest.takeWhile Char.isDigit
        if fraction.isEmpty then
          none
        else
          (Binary64.readExponent? (rest.dropWhile Char.isDigit)).map fun exponent =>
            decimalValue (whole ++ fraction) (exponent - fraction.length)
    | rest => (Binary64.readExponent? rest).map (decimalValue whole)
  else
    none

def readNumber? : List Char → Option ℚ
  | '-' :: word => (readMagnitude? word).map (- ·)
  | word => readMagnitude? word

/-- Read a word: a number or one of the three names. -/
def readWord? (word : List Char) : Option JsonValue :=
  if word = "null".toList then
    some .null
  else if word = "true".toList then
    some (.bool true)
  else if word = "false".toList then
    some (.bool false)
  else
    (readNumber? word).map .number

def hexDigit? (char : Char) : Option Nat :=
  if char.isDigit then
    some (char.toNat - '0'.toNat)
  else if 'a' ≤ char ∧ char ≤ 'f' then
    some (char.toNat - 'a'.toNat + 10)
  else if 'A' ≤ char ∧ char ≤ 'F' then
    some (char.toNat - 'A'.toNat + 10)
  else
    none

/-- The character with this code, which is none for half of a surrogate pair. -/
def charOf? (code : Nat) : Option Char :=
  if code.isValidChar then some (Char.ofNat code) else none

/-- The characters with these codes; two halves of a surrogate pair make one. -/
def ofCodes? : List Nat → Option (List Char)
  | [] => some []
  | [code] => (charOf? code).map ([·])
  | code :: next :: rest =>
      if 0xd800 ≤ code ∧ code < 0xdc00 then
        if 0xdc00 ≤ next ∧ next < 0xe000 then do
          let char ← charOf? (0x10000 + (code - 0xd800) * 0x400 + (next - 0xdc00))
          return char :: (← ofCodes? rest)
        else
          none
      else do
        let char ← charOf? code
        return char :: (← ofCodes? (next :: rest))

/-- Code of the character that a letter behind a backslash stands for. -/
def escapedCode? : Char → Option Nat
  | '"' => some 0x22
  | '\\' => some 0x5c
  | '/' => some 0x2f
  | 'b' => some 0x08
  | 'f' => some 0x0c
  | 'n' => some 0x0a
  | 'r' => some 0x0d
  | 't' => some 0x09
  | _ => none

/-- What a complete lexeme tells the parser. -/
inductive Token where
  | openArray
  | closeArray
  | openObject
  | closeObject
  | comma
  | colon
  /-- A word. -/
  | scalar (value : JsonValue)
  /-- A text, which is a value or the key of a member. -/
  | text (content : String)

def mark? : Char → Option Token
  | '[' => some .openArray
  | ']' => some .closeArray
  | '\x7b' => some .openObject
  | '\x7d' => some .closeObject
  | ',' => some .comma
  | ':' => some .colon
  | _ => none

def isBlank (char : Char) : Bool :=
  char = ' ' || char = '\n' || char = '\r' || char = '\t'

/-- Whether a character ends a word. -/
def isDelimiter (char : Char) : Bool :=
  isBlank char || char = '"' || (mark? char).isSome

/-- An array or object that is not complete. -/
inductive Frame where
  | array (items : List JsonValue)
  /-- An object in which the value of a key is being read. -/
  | object (members : List (String × JsonValue)) (key : String)

/-- Where among the lexemes a parser is. -/
inductive Place where
  /-- In front of a value, which may be missing right behind the start of an array. -/
  | value (mayClose : Bool)
  /-- In front of a key, which may be missing right behind the start of an object. -/
  | key (members : List (String × JsonValue)) (mayClose : Bool)
  /-- Behind a key. -/
  | colon (members : List (String × JsonValue)) (key : String)
  /-- Behind a value. -/
  | behind (value : JsonValue)

/-- What was read of a document, in lexemes. -/
structure Parser where
  /-- The arrays and objects around the present place, from the inside out. -/
  stack : List Frame
  place : Place

namespace Parser

/-- A parser in front of a document. -/
def start : Parser :=
  ⟨[], .value false⟩

/-- Take a lexeme in front of a value. -/
def acceptValue (stack : List Frame) (mayClose : Bool) : Token → Option Parser
  | .scalar value => some ⟨stack, .behind value⟩
  | .text content => some ⟨stack, .behind (.text content)⟩
  | .openArray => some ⟨.array [] :: stack, .value true⟩
  | .openObject => some ⟨stack, .key [] true⟩
  | .closeArray =>
      match mayClose, stack with
      | true, .array items :: outer => some ⟨outer, .behind (.array items)⟩
      | _, _ => none
  | _ => none

/-- Take a lexeme behind a value. -/
def acceptBehind (stack : List Frame) (value : JsonValue) : Token → Option Parser
  | .comma =>
      match stack with
      | .array items :: outer => some ⟨.array (items ++ [value]) :: outer, .value false⟩
      | .object members key :: outer => some ⟨outer, .key (members ++ [(key, value)]) false⟩
      | [] => none
  | .closeArray =>
      match stack with
      | .array items :: outer => some ⟨outer, .behind (.array (items ++ [value]))⟩
      | _ => none
  | .closeObject =>
      match stack with
      | .object members key :: outer =>
          some ⟨outer, .behind (.object (members ++ [(key, value)]))⟩
      | _ => none
  | _ => none

def accept (parser : Parser) (token : Token) : Option Parser :=
  match parser.place, token with
  | .value mayClose, token => acceptValue parser.stack mayClose token
  | .key members _, .text key => some ⟨parser.stack, .colon members key⟩
  | .key members true, .closeObject => some ⟨parser.stack, .behind (.object members)⟩
  | .colon members key, .colon => some ⟨.object members key :: parser.stack, .value false⟩
  | .behind value, token => acceptBehind parser.stack value token
  | _, _ => none

/-- The value of a document that ends here. -/
def finish (parser : Parser) : Option JsonValue :=
  match parser.stack, parser.place with
  | [], .behind value => some value
  | _, _ => none

end Parser

/-- The lexeme that a reader is in the middle of. -/
inductive Lexeme where
  | none
  /-- A word that starts with these characters. -/
  | word (start : List Char)
  /-- A text that starts with characters of these codes. -/
  | text (codes : List Nat)
  /-- The letter behind a backslash. -/
  | escape (codes : List Nat)
  /-- A hexadecimal code of which some digits are missing. -/
  | code (codes : List Nat) (missing : Nat) (value : Nat)

/-- A reader in the middle of a text. -/
structure Reader where
  lexeme : Lexeme
  parser : Parser

namespace Reader

def start : Reader :=
  ⟨.none, .start⟩

/-- Read a character that starts a lexeme or stands between two. -/
def startLexeme (parser : Parser) (char : Char) : Option Reader :=
  if isBlank char then
    some ⟨.none, parser⟩
  else if char = '"' then
    some ⟨.text [], parser⟩
  else
    match mark? char with
    | some token => (parser.accept token).map (⟨.none, ·⟩)
    | none => some ⟨.word [char], parser⟩

/-- The parser once the present lexeme is complete, which a text is only by its last
quote. -/
def settle (reader : Reader) : Option Parser :=
  match reader.lexeme with
  | .none => some reader.parser
  | .word chars => (readWord? chars).bind fun value => reader.parser.accept (.scalar value)
  | _ => none

/-- Read one more digit of a hexadecimal code. -/
def readCode (parser : Parser) (codes : List Nat) (missing value digit : Nat) : Reader :=
  if missing ≤ 1 then
    ⟨.text (codes ++ [value * 16 + digit]), parser⟩
  else
    ⟨.code codes (missing - 1) (value * 16 + digit), parser⟩

def step (reader : Reader) (char : Char) : Option Reader :=
  match reader.lexeme with
  | .none => startLexeme reader.parser char
  | .word chars =>
      if isDelimiter char then
        reader.settle.bind (startLexeme · char)
      else
        some ⟨.word (chars ++ [char]), reader.parser⟩
  | .text codes =>
      if char = '"' then
        (ofCodes? codes).bind fun content =>
          (reader.parser.accept (.text (String.ofList content))).map (⟨.none, ·⟩)
      else if char = '\\' then
        some ⟨.escape codes, reader.parser⟩
      else if char.toNat < 0x20 then
        none
      else
        some ⟨.text (codes ++ [char.toNat]), reader.parser⟩
  | .escape codes =>
      if char = 'u' then
        some ⟨.code codes 4 0, reader.parser⟩
      else
        (escapedCode? char).map fun code => ⟨.text (codes ++ [code]), reader.parser⟩
  | .code codes missing value =>
      (hexDigit? char).map (readCode reader.parser codes missing value)

def finish (reader : Reader) : Option JsonValue :=
  reader.settle.bind Parser.finish

end Reader

/-- The value of a JSON text. -/
def read? (text : String) : Option JsonValue :=
  (text.toList.foldlM Reader.step .start).bind Reader.finish

end Json

end CallLedger

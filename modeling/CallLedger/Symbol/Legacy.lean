import CallLedger.Symbol.Limit

/-!
# Legacy symbol names

A legacy Rust symbol is `_ZN`, a list of path elements, each preceded by its length in
decimal, and `E`.  Characters that assemblers do not accept are written as escapes
between dollar signs, and the last element may be a hash that distinguishes compiled
instances; the hash is not part of the readable name.
-/

namespace CallLedger.Symbol

/-- Text after one of several beginnings, the first that fits. -/
def afterBeginning? (beginnings : List String) (name : List Char) : Option (List Char) :=
  beginnings.findSome? fun beginning =>
    if beginning.toList.isPrefixOf name then some (name.drop beginning.length) else none

def isForeign (char : Char) : Bool :=
  decide (128 ≤ char.toNat)

def decimalValue (digits : List Char) : Nat :=
  digits.foldl (fun value digit => value * 10 + (digit.toNat - '0'.toNat)) 0

namespace Legacy

/-- The elements of a symbol up to its `E`, and what follows.  Every element uses up
at least one character, so the length of the text bounds their number. -/
def elements? : Nat → List Char → Option (List (List Char) × List Char)
  | 0, _ => none
  | fuel + 1, text =>
      match text with
      | [] => none
      | 'E' :: rest => some ([], rest)
      | _ =>
          let digits := text.takeWhile Char.isDigit
          let body := text.dropWhile Char.isDigit
          let length := decimalValue digits
          if digits.isEmpty || decide (Nat.pow 2 64 ≤ length) ||
              decide ((body.take length).length < length) then
            none
          else
            (elements? fuel (body.drop length)).map fun (others, rest) =>
              (body.take length :: others, rest)

/-- Whether an element is a hash: an `h` with hexadecimal digits after it. -/
def isHash : List Char → Bool
  | 'h' :: digits => digits.all fun digit =>
      digit.isDigit || (decide ('a' ≤ digit.toLower) && decide (digit.toLower ≤ 'f'))
  | _ => false

def lowerHexValue? (digits : List Char) : Option Nat :=
  if digits.isEmpty then
    none
  else
    digits.foldlM (fun value digit =>
      if digit.isDigit then some (value * 16 + (digit.toNat - '0'.toNat))
      else if 'a' ≤ digit ∧ digit ≤ 'f' then
        some (value * 16 + (digit.toNat - 'a'.toNat + 10))
      else none) 0

def isControl (code : Nat) : Bool :=
  decide (code < 0x20) || (decide (0x7F ≤ code) && decide (code < 0xA0))

/-- The character that a numeric escape stands for. -/
def numericEscape? (digits : List Char) : Option Char := do
  let code ← lowerHexValue? digits
  if code.isValidChar && !isControl code then some (Char.ofNat code) else none

/-- The character that an escape stands for. -/
def escape? (name : List Char) : Option Char :=
  match String.ofList name with
  | "SP" => some '@'
  | "BP" => some '*'
  | "RF" => some '&'
  | "LT" => some '<'
  | "GT" => some '>'
  | "LP" => some '('
  | "RP" => some ')'
  | "C" => some ','
  | _ =>
      match name with
      | 'u' :: digits => numericEscape? digits
      | _ => none

/-- Whether a character stands for itself wherever it is in an element. -/
def isLiteral (char : Char) : Bool :=
  char != '$' && char != '.'

/-- Readable form of an element, in pieces.  Two points stand for a path separator; from
the first escape that has no meaning on, the element is shown as it is. -/
def unescape : Nat → List Char → List String
  | 0, text => [String.ofList text]
  | fuel + 1, text =>
      match text with
      | [] => []
      | '.' :: '.' :: rest => "::" :: unescape fuel rest
      | '.' :: rest => "." :: unescape fuel rest
      | '$' :: rest =>
          let name := rest.takeWhile (· != '$')
          match rest.dropWhile (· != '$'), escape? name with
          | _ :: after, some char => char.toString :: unescape fuel after
          | _, _ => [String.ofList text]
      | text =>
          String.ofList (text.takeWhile isLiteral) ::
            unescape fuel (text.dropWhile isLiteral)

/-- Readable form of an element, in pieces; an underscore before an escape at its start is
not part of the name. -/
def showElement (element : List Char) : List String :=
  match element with
  | '_' :: '$' :: rest => unescape element.length ('$' :: rest)
  | element => unescape element.length element

/-- The elements that are shown: all but a hash at the end. -/
def shown (elements : List (List Char)) : List (List Char) :=
  match elements.getLast? with
  | some last => if isHash last then elements.dropLast else elements
  | none => elements

/-- Readable form of a legacy symbol, and what follows the symbol. -/
def demangle? (name : List Char) : Option (String × List Char) := do
  let inner ← afterBeginning? ["_ZN", "ZN", "__ZN"] name
  if inner.any isForeign then
    none
  else
    let (elements, rest) ← elements? (inner.length + 1) inner
    let pieces := [ "::" ].intercalate ((shown elements).map showElement)
    some (appendWithin maxBytes "" pieces, rest)

end Legacy

end CallLedger.Symbol

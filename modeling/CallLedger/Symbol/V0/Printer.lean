import CallLedger.Symbol.Limit
import CallLedger.Symbol.Punycode
import CallLedger.Symbol.V0.Cursor
import CallLedger.Text.Character

/-!
# Printing v0 symbols

A v0 symbol is a path whose parts are types, constants and further paths.  It is read
and printed in one go.  Printing can be silent, which checks a symbol without looking
at what references refer to.  When reading fails, the reason is printed in place of
what could not be read, and a question mark for everything after it.  Text that grows
beyond a limit is cut off.
-/

namespace CallLedger.Symbol.V0

/-- What printing has reached. -/
structure Printer where
  /-- Where to read on, unless reading has failed. -/
  cursor : Except Flaw Cursor
  /-- Whether nothing is printed. -/
  silent : Bool
  /-- What has been printed. -/
  text : String
  /-- How many bytes may still be printed. -/
  room : Nat
  /-- How many lifetimes are bound around the current place. -/
  lifetimes : Nat

/-- Printing ran out of room. -/
inductive Overfull where
  | mk

/-- A part of printing; it stops early when the room is used up. -/
abbrev Print := ExceptT Overfull (StateM Printer)

namespace Print

def write (piece : String) : Print Unit := do
  let printer ← get
  if printer.silent then
    return
  else if piece.utf8ByteSize ≤ printer.room then
    set { printer with
      text := printer.text ++ piece
      room := printer.room - piece.utf8ByteSize }
  else
    set { printer with room := 0 }
    throw .mk

def fail (flaw : Flaw) : Print Unit := do
  write flaw.message
  modify ({ · with cursor := .error flaw })

/-- Read on.  Without a result, the rest of the current construct is skipped. -/
def read? {α : Type} (reader : Reader α) : Print (Option α) := do
  match (← get).cursor with
  | .error _ =>
      write "?"
      return none
  | .ok cursor =>
      match reader.run cursor with
      | .ok (result, after) =>
          modify ({ · with cursor := .ok after })
          return some result
      | .error flaw =>
          fail flaw
          return none

def hasFailed : Print Bool := do
  match (← get).cursor with
  | .ok _ => return false
  | .error _ => return true

/-- Read one particular character if it comes next. -/
def skip (char : Char) : Print Bool := do
  match (← get).cursor with
  | .error _ => return false
  | .ok cursor =>
      match (Reader.skip char).run cursor with
      | .ok (found, after) =>
          modify ({ · with cursor := .ok after })
          return found
      | .error _ => return false

def leave : Print Unit :=
  modify fun printer =>
    { printer with
      cursor := printer.cursor.map fun cursor => { cursor with depth := cursor.depth - 1 } }

/-- Go back over the character that was read last. -/
def unread (char : Char) : Print Unit :=
  modify fun printer =>
    { printer with
      cursor := printer.cursor.map fun cursor =>
        { cursor with position := cursor.position - 1, rest := char :: cursor.rest } }

/-- Carry out a part without printing it. -/
def silently (part : Print Unit) : Print Unit := do
  let silent := (← get).silent
  modify ({ · with silent := true })
  part
  modify ({ · with silent := silent })

/-- Carry out a part at the place that a reference refers to, unless nothing is
printed anyway. -/
def atReference {α : Type} (absent : α) (part : Print α) : Print α := do
  match ← read? Reader.reference with
  | none => return absent
  | some target =>
      let printer ← get
      if printer.silent then
        return absent
      else
        set { printer with cursor := .ok target }
        let result ← part
        -- Even if the part failed, reading goes on behind the reference.
        modify ({ · with cursor := printer.cursor })
        return result

/-- Characters of an identifier that could be decoded; at most this many. -/
def maxDecoded : Nat := 128

/-- Print an identifier; one that cannot be decoded is shown with its digits. -/
def identifier (identifier : Identifier) : Print Unit := do
  if identifier.digits.isEmpty then
    write (String.ofList identifier.ascii)
  else
    match Punycode.decode? identifier.ascii identifier.digits with
    | some decoded =>
        if decoded.length ≤ maxDecoded then
          decoded.forM fun char => write char.toString
        else
          raw
    | none => raw
where
  raw : Print Unit := do
    write "punycode\x7b"
    unless identifier.ascii.isEmpty do
      write (String.ofList identifier.ascii)
      write "-"
    write (String.ofList identifier.digits)
    write "\x7d"

/-- Print characters with escapes, between quotes.  A quote of the other kind needs no
escape. -/
def quoted (quote : Char) (chars : List Char) : Print Unit := do
  write quote.toString
  chars.forM fun char =>
    if (quote == '\'' && char == '"') || (quote == '"' && char == '\'') then
      write char.toString
    else
      (Text.escape char).forM fun escaped => write escaped.toString
  write quote.toString

/-- Print a lifetime: zero is the anonymous one, other numbers count the bound
lifetimes from the inside out. -/
def lifetime (number : Nat) : Print Unit := do
  let printer ← get
  if printer.silent then
    return
  write "'"
  if number = 0 then
    write "_"
  else if printer.lifetimes < number then
    fail .badSyntax
  else
    let depth := printer.lifetimes - number
    if depth < 26 then
      write (Char.ofNat ('a'.toNat + depth)).toString
    else
      write "_"
      write (toString depth)

/-- Bind and print further lifetimes. -/
def bindLifetimes : Nat → Print Unit
  | 0 => return
  | count + 1 => do
      modify fun printer => { printer with lifetimes := printer.lifetimes + 1 }
      lifetime 1
      unless count = 0 do
        write ", "
      bindLifetimes count

/-- Carry out a part inside of the binder of lifetimes that may come next. -/
def inBinder (part : Print Unit) : Print Unit := do
  match ← read? (Reader.optionalNumber 'G') with
  | none => return
  | some count =>
      if (← get).silent then
        part
      else
        unless count = 0 do
          write "for<"
          bindLifetimes count
          write "> "
        part
        modify fun printer => { printer with lifetimes := printer.lifetimes - count }

/-- Name of a type that a single letter stands for. -/
def basicType? : Char → Option String
  | 'b' => some "bool"
  | 'c' => some "char"
  | 'e' => some "str"
  | 'u' => some "()"
  | 'a' => some "i8"
  | 's' => some "i16"
  | 'l' => some "i32"
  | 'x' => some "i64"
  | 'n' => some "i128"
  | 'i' => some "isize"
  | 'h' => some "u8"
  | 't' => some "u16"
  | 'm' => some "u32"
  | 'y' => some "u64"
  | 'o' => some "u128"
  | 'j' => some "usize"
  | 'f' => some "f32"
  | 'd' => some "f64"
  | 'z' => some "!"
  | 'p' => some "_"
  | 'v' => some "..."
  | _ => none

/-- Read the letter that tells what a type is like.  The mark of a type that is spread
over several arguments may come before it, once, and is printed. -/
def typeTag? : Print (Option Char) := do
  match ← read? Reader.next with
  | some 'w' =>
      write "#[splat] "
      read? Reader.next
  | tag => return tag

def hexValue (digit : Char) : Nat :=
  if digit.isDigit then digit.toNat - '0'.toNat else digit.toNat - 'a'.toNat + 10

/-- Value of hexadecimal data, if it has at most 64 bits. -/
def smallNumber? (digits : List Char) : Option Nat :=
  let significant := digits.dropWhile (· == '0')
  if significant.length ≤ 16 then
    some (significant.foldl (fun value digit => value * 16 + hexValue digit) 0)
  else
    none

/-- Bytes of hexadecimal data with two digits each. -/
def pairedBytes? : List Char → Option (List UInt8)
  | [] => some []
  | high :: low :: rest =>
      (pairedBytes? rest).map ((hexValue high * 16 + hexValue low).toUInt8 :: ·)
  | [_] => none

def textOf? (digits : List Char) : Option (List Char) := do
  let bytes ← pairedBytes? digits
  let text ← String.fromUTF8? ⟨bytes.toArray⟩
  return text.toList

def wholeNumber : Print Unit := do
  match ← read? Reader.hexadecimal with
  | none => return
  | some digits =>
      match smallNumber? digits with
      | some number => write (toString number)
      | none =>
          write "0x"
          write (String.ofList digits)

def textLiteral : Print Unit := do
  match ← read? Reader.hexadecimal with
  | none => return
  | some digits =>
      match textOf? digits with
      | some chars => quoted '"' chars
      | none => fail .badSyntax

def truthValue : Print Unit := do
  match ← read? Reader.hexadecimal with
  | none => return
  | some digits =>
      match smallNumber? digits with
      | some 0 => write "false"
      | some 1 => write "true"
      | _ => fail .badSyntax

def character : Print Unit := do
  match ← read? Reader.hexadecimal with
  | none => return
  | some digits =>
      match smallNumber? digits with
      | some code =>
          if code.isValidChar then
            quoted '\'' [Char.ofNat code]
          else
            fail .badSyntax
      | none => fail .badSyntax

/-- Print the calling convention of a function type.  Underscores stand for
hyphens. -/
def convention (name : List Char) : Print Unit := do
  write "extern \""
  match name.splitOn '_' with
  | [] => return
  | first :: others => do
      write (String.ofList first)
      others.forM fun part => do
        write "-"
        write (String.ofList part)
  write "\" "

/-- Print an opening brace unless the constant stands where none is needed. -/
def openBrace (bare : Bool) : Print Unit :=
  if bare then pure () else write "\x7b"

def closeBrace (bare : Bool) : Print Unit :=
  if bare then pure () else write "\x7d"

mutual

/-- Print a path.  Inside of values, generic arguments are set off by a path
separator. -/
def path (fuel : Nat) (inValue : Bool) : Print Unit := do
  match fuel with
  | 0 => return
  | fuel + 1 =>
    let some _ ← read? Reader.enter | return
    let some tag ← read? Reader.next | return
    match tag with
    | 'C' =>
      let some _ ← read? Reader.disambiguator | return
      let some name ← read? Reader.identifier | return
      identifier name
    | 'N' =>
      let some kind ← read? Reader.namespaceKind | return
      path fuel inValue
      if ← hasFailed then
        write "::"
      let some number ← read? Reader.disambiguator | return
      let some name ← read? Reader.identifier | return
      match kind with
      | some kind =>
        write "::\x7b"
        match kind with
        | 'C' => write "closure"
        | 'S' => write "shim"
        | kind => write kind.toString
        unless name.isEmpty do
          write ":"
          identifier name
        write "#"
        write (toString number)
        write "\x7d"
      | none =>
        unless name.isEmpty do
          write "::"
          identifier name
    | 'M' =>
      let some _ ← read? Reader.disambiguator | return
      silently (path fuel false)
      write "<"
      type fuel
      write ">"
    | 'X' =>
      let some _ ← read? Reader.disambiguator | return
      silently (path fuel false)
      implementation fuel
    | 'Y' => implementation fuel
    | 'I' =>
      path fuel inValue
      if inValue then
        write "::"
      write "<"
      genericArguments fuel true
      write ">"
    | 'B' => atReference () (path fuel inValue)
    | _ =>
      fail .badSyntax
      return
    leave

/-- Print a type seen as an implementation of a trait. -/
def implementation (fuel : Nat) : Print Unit := do
  match fuel with
  | 0 => return
  | fuel + 1 =>
    write "<"
    type fuel
    write " as "
    path fuel false
    write ">"

/-- Print generic arguments up to the end of their list. -/
def genericArguments (fuel : Nat) (isFirst : Bool) : Print Unit := do
  match fuel with
  | 0 => return
  | fuel + 1 =>
    if (← hasFailed) || (← skip 'E') then
      return
    unless isFirst do
      write ", "
    if ← skip 'L' then
      match ← read? Reader.number with
      | some number => lifetime number
      | none => pure ()
    else if ← skip 'K' then
      constant fuel false
    else
      type fuel
    genericArguments fuel false

/-- Print types up to the end of their list; the result is how many there are. -/
def types (fuel : Nat) (count : Nat) : Print Nat := do
  match fuel with
  | 0 => return count
  | fuel + 1 =>
    if (← hasFailed) || (← skip 'E') then
      return count
    unless count = 0 do
      write ", "
    type fuel
    types fuel (count + 1)

def type (fuel : Nat) : Print Unit := do
  match fuel with
  | 0 => return
  | fuel + 1 =>
    let some tag ← typeTag? | return
    match basicType? tag with
    | some name => write name
    | none =>
      let some _ ← read? Reader.enter | return
      match tag with
      | 'R' => reference fuel ""
      | 'Q' => reference fuel "mut "
      | 'P' =>
        write "*"
        write "const "
        type fuel
      | 'O' =>
        write "*"
        write "mut "
        type fuel
      | 'A' =>
        write "["
        type fuel
        write "; "
        constant fuel true
        write "]"
      | 'S' =>
        write "["
        type fuel
        write "]"
      | 'T' =>
        write "("
        let count ← types fuel 0
        if count = 1 then
          write ","
        write ")"
      | 'F' => inBinder (function fuel)
      | 'D' =>
        write "dyn "
        inBinder (bounds fuel true)
        if !(← skip 'L') then
          fail .badSyntax
          return
        let some number ← read? Reader.number | return
        unless number = 0 do
          write " + "
          lifetime number
      | 'B' => atReference () (type fuel)
      | 'W' =>
        type fuel
        write " is "
        pattern fuel
      | tag =>
        unread tag
        path fuel false
      leave

/-- Print a reference to a type. -/
def reference (fuel : Nat) (mark : String) : Print Unit := do
  match fuel with
  | 0 => return
  | fuel + 1 =>
    write "&"
    if ← skip 'L' then
      match ← read? Reader.number with
      | none => return
      | some 0 => pure ()
      | some number =>
        lifetime number
        write " "
    write mark
    type fuel

/-- Print a function type after its binder. -/
def function (fuel : Nat) : Print Unit := do
  match fuel with
  | 0 => return
  | fuel + 1 =>
    let isUnsafe ← skip 'U'
    let convention? : Option (List Char) ←
      if ← skip 'K' then
        if ← skip 'C' then
          pure (some ['C'])
        else
          let some name ← read? Reader.identifier | return
          if name.ascii.isEmpty || !name.digits.isEmpty then
            fail .badSyntax
            return
          pure (some name.ascii)
      else
        pure none
    if isUnsafe then
      write "unsafe "
    match convention? with
    | some name => convention name
    | none => pure ()
    write "fn("
    let _ ← types fuel 0
    write ")"
    if !(← skip 'u') then
      write " -> "
      type fuel

/-- Print the bounds of a trait object up to the end of their list. -/
def bounds (fuel : Nat) (isFirst : Bool) : Print Unit := do
  match fuel with
  | 0 => return
  | fuel + 1 =>
    if (← hasFailed) || (← skip 'E') then
      return
    unless isFirst do
      write " + "
    let isOpen ← openPath fuel
    bindings fuel isOpen
    bounds fuel false

/-- Print the associated types and constants of a bound, inside of the brackets of its
generic arguments. -/
def bindings (fuel : Nat) (isOpen : Bool) : Print Unit := do
  match fuel with
  | 0 => return
  | fuel + 1 =>
    if ← skip 'p' then
      write (if isOpen then ", " else "<")
      let some name ← read? Reader.identifier | return
      identifier name
      write " = "
      if ← skip 'K' then
        constant fuel false
      else
        type fuel
      bindings fuel true
    else if isOpen then
      write ">"

/-- Print the path of a bound.  The result tells whether the brackets of its generic
arguments are still open. -/
def openPath (fuel : Nat) : Print Bool := do
  match fuel with
  | 0 => return false
  | fuel + 1 =>
    if ← skip 'B' then
      atReference false (openPath fuel)
    else if ← skip 'I' then
      path fuel false
      write "<"
      genericArguments fuel true
      return true
    else
      path fuel false
      return false

/-- Print the values that a type is restricted to. -/
def pattern (fuel : Nat) : Print Unit := do
  match fuel with
  | 0 => return
  | fuel + 1 =>
    let some tag ← read? Reader.next | return
    match tag with
    | 'R' =>
      constant fuel false
      write "..="
      constant fuel false
    | 'O' =>
      let some _ ← read? Reader.enter | return
      pattern fuel
      alternatives fuel
      leave
    | 'N' => write "!null"
    | _ => fail .badSyntax

/-- Print further patterns up to the end of their list.  A list without an end is a
failure of its own, besides the one that cut it short. -/
def alternatives (fuel : Nat) : Print Unit := do
  match fuel with
  | 0 => return
  | fuel + 1 =>
    if ← hasFailed then
      fail .badSyntax
    else if !(← skip 'E') then
      write " | "
      pattern fuel
      alternatives fuel

/-- Print a constant.  Where it would not be told apart from a type, a constant that is
not a plain literal is put into braces. -/
def constant (fuel : Nat) (bare : Bool) : Print Unit := do
  match fuel with
  | 0 => return
  | fuel + 1 =>
    let some tag ← read? Reader.next | return
    let some _ ← read? Reader.enter | return
    if tag == 'p' then
      write "_"
    else if "htmyoj".contains tag then
      wholeNumber
    else if "aslxni".contains tag then
      if ← skip 'n' then
        write "-"
      wholeNumber
    else
      match tag with
      | 'b' => truthValue
      | 'c' => character
      | 'e' =>
        openBrace bare
        write "*"
        textLiteral
        closeBrace bare
      | 'R' =>
        if ← skip 'e' then
          textLiteral
        else
          openBrace bare
          write "&"
          constant fuel true
          closeBrace bare
      | 'Q' =>
        openBrace bare
        write "&"
        write "mut "
        constant fuel true
        closeBrace bare
      | 'A' =>
        openBrace bare
        write "["
        let _ ← constants fuel 0
        write "]"
        closeBrace bare
      | 'T' =>
        openBrace bare
        write "("
        let count ← constants fuel 0
        if count = 1 then
          write ","
        write ")"
        closeBrace bare
      | 'V' =>
        openBrace bare
        path fuel true
        let some kind ← read? Reader.next | return
        match kind with
        | 'U' => pure ()
        | 'T' =>
          write "("
          let _ ← constants fuel 0
          write ")"
        | 'S' =>
          write " \x7b "
          fields fuel true
          write " \x7d"
        | _ =>
          fail .badSyntax
          return
        closeBrace bare
      | 'B' => atReference () (constant fuel bare)
      | _ =>
        fail .badSyntax
        return
    leave

/-- Print constants up to the end of their list; the result is how many there are. -/
def constants (fuel : Nat) (count : Nat) : Print Nat := do
  match fuel with
  | 0 => return count
  | fuel + 1 =>
    if (← hasFailed) || (← skip 'E') then
      return count
    unless count = 0 do
      write ", "
    constant fuel true
    constants fuel (count + 1)

/-- Print the named fields of a constant up to the end of their list. -/
def fields (fuel : Nat) (isFirst : Bool) : Print Unit := do
  match fuel with
  | 0 => return
  | fuel + 1 =>
    if (← hasFailed) || (← skip 'E') then
      return
    unless isFirst do
      write ", "
    field fuel
    fields fuel false

def field (fuel : Nat) : Print Unit := do
  match fuel with
  | 0 => return
  | fuel + 1 =>
    let some _ ← read? Reader.disambiguator | return
    let some name ← read? Reader.identifier | return
    identifier name
    write ": "
    constant fuel true

end

end Print

/-- Enough steps for any symbol of a length: nesting is limited, and on every level
each list element takes up a character. -/
def steps (length : Nat) : Nat :=
  8 * maxDepth * (length + 1)

/-- Print or check the path at a cursor. -/
def printPath (cursor : Cursor) (silent inValue : Bool) : Except Overfull Unit × Printer :=
  let printer : Printer := ⟨.ok cursor, silent, "", maxBytes, 0⟩
  ((Print.path (steps cursor.symbol.length) inValue).run).run printer

/-- The cursor after the path at a cursor, if there is a path. -/
def afterPath? (cursor : Cursor) : Option Cursor :=
  (printPath cursor true false).2.cursor.toOption

/-- Letters that a symbol may start with and that are followed by a path. -/
def beginnings : List String := ["_R", "R", "__R"]

def isCapital (char : Char) : Bool :=
  decide ('A' ≤ char) && decide (char ≤ 'Z')

/-- What follows a symbol, if the text starts with one.  The path of the crate that
instantiated the symbol may come after the symbol's own path. -/
def afterSymbol? (inner : List Char) : Option (List Char) := do
  let first ← inner.head?
  if !isCapital first || inner.any (decide <| 128 ≤ ·.toNat) then
    none
  else
    let after ← afterPath? (.start inner)
    match after.rest with
    | next :: _ =>
        if isCapital next then
          (afterPath? after).map (·.rest)
        else
          some after.rest
    | [] => some []

/-- Readable form of the symbol's own path. -/
def shown (inner : List Char) : String :=
  match printPath (.start inner) false true with
  | (.ok _, printer) => printer.text
  | (.error _, printer) => printer.text ++ cutMark

end CallLedger.Symbol.V0

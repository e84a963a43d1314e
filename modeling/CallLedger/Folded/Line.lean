import CallLedger.Decimal
import CallLedger.Input

/-!
# Lines of folded stacks

A folded stack is a sample count, one space, and the frames of a call stack from the
outermost to the innermost, divided by semicolons.  A line that starts with a space
or has none ends the section of samples.

Lines end with a line feed, which is optional after the last one.  Each line is decoded
on its own, so bytes that are not text are noticed only when their line is reached.
-/

namespace CallLedger.Folded

/-- The bytes of each line, without the line feeds. -/
def splitLines (input : Bytes) : List Bytes :=
  let pieces := input.splitOn 10
  -- Behind the last line feed there is no line, so an empty last piece is none.
  if pieces.getLast? = some [] then pieces.dropLast else pieces

/-- One line of input, taken apart. -/
inductive Line where
  | sample (count : Count) (frames : List String)
  | sectionEnd
  deriving DecidableEq

/-- A sample count that cannot be read. -/
structure CountError where
  /-- The line's number, from one. -/
  line : Nat
  field : String
  fault : Decimal.CountFault
  deriving DecidableEq, Repr

def CountError.message (error : CountError) : String :=
  s!"Unable to parse profile report at line {error.line}: " ++
    "invalid sample count '" ++ error.field ++ "': " ++ error.fault.message

def isLineEnd (char : Char) : Bool :=
  char == '\n' || char == '\r'

/-- Text without the line ends at its end. -/
def trimLineEnds (text : List Char) : List Char :=
  (text.reverse.dropWhile isLineEnd).reverse

/-- Frames of a path; the empty path has none. -/
def splitPath (path : List Char) : List String :=
  if path.isEmpty then [] else (path.splitOn ';').map String.ofList

/-- Take a line apart.  The number is the line's, for errors. -/
def parseLine (text : String) (number : Nat) : Except CountError Line :=
  let line := trimLineEnds text.toList
  let field := line.takeWhile (· != ' ')
  match line.dropWhile (· != ' ') with
  | [] => .ok .sectionEnd
  | _ :: path =>
      if field.isEmpty then
        .ok .sectionEnd
      else
        match Decimal.readCount field with
        | .ok count => .ok (.sample count (splitPath path))
        | .error fault => .error ⟨number, String.ofList field, fault⟩

end CallLedger.Folded

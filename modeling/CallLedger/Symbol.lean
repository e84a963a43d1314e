import CallLedger.Symbol.Legacy
import CallLedger.Symbol.V0.Printer

/-!
# Readable symbol names

Frames of compiled programs carry mangled names.  A name in one of the two mangling
schemes of Rust is replaced by a readable path without its hash; any other name stays
as it is.
-/

namespace CallLedger.Symbol

/-- Whether characters after the mark of an imported symbol are its number. -/
def isImportNumber (char : Char) : Bool :=
  char.isDigit || (decide ('A' ≤ char) && decide (char ≤ 'F')) || char == '@'

/-- A name up to the first mark of an imported symbol, and what follows the mark. -/
def splitAtImport? (mark : List Char) : List Char → Option (List Char × List Char)
  | [] => none
  | char :: rest =>
      if mark.isPrefixOf (char :: rest) then
        some ([], (char :: rest).drop mark.length)
      else
        (splitAtImport? mark rest).map fun (before, after) => (char :: before, after)

/-- A name without the number that link-time optimisation appends. -/
def dropImport (name : List Char) : List Char :=
  match splitAtImport? ".llvm.".toList name with
  | some (before, after) => if after.all isImportNumber then before else name
  | none => name

def isSuffixChar (char : Char) : Bool :=
  decide (0x21 ≤ char.toNat) && decide (char.toNat ≤ 0x7E)

/-- Whether a text may follow a symbol: nothing, or words that start with a point. -/
def isSuffix : List Char → Bool
  | [] => true
  | '.' :: rest => rest.all isSuffixChar
  | _ => false

/-- Readable form of a mangled symbol, and what follows the symbol. -/
def read? (name : List Char) : Option (String × List Char) :=
  match Legacy.demangle? name with
  | some result => some result
  | none => do
      let inner ← afterBeginning? V0.beginnings name
      let after ← V0.afterSymbol? inner
      some (V0.shown inner, after)

def demangle (name : String) : String :=
  let symbol := dropImport name.toList
  match read? symbol with
  | some (path, after) =>
      if isSuffix after then path ++ String.ofList after else String.ofList symbol
  | none => String.ofList symbol

end CallLedger.Symbol

import CallLedger.Text.Wrap

/-!
# Tables

Rows of cells under a row of titles.  A column is as wide as its widest cell, titles
included, up to a limit; every cell is filled up to that width and stands between two
blanks.  A cell beyond the limit is broken into lines, and the other cells of its row are
left blank on all lines but the first.  Titles are always on the left of their columns.
-/

namespace CallLedger.Text

/-- Side of a column on which its cells stand. -/
inductive Alignment where
  | left
  | right
  deriving DecidableEq, Repr

/-- A column with its title. -/
structure Column where
  title : String
  alignment : Alignment
  deriving DecidableEq, Repr

/-- Rows of cells, each without line feeds, as many in a row as there are columns. -/
structure Table where
  columns : List Column
  rows : List (List String)
  deriving DecidableEq, Repr

def blanks (count : Nat) : String :=
  String.ofList (List.replicate count ' ')

/-- A cell filled up to the width of its column, with a blank on either side. -/
def cell (alignment : Alignment) (columns : Nat) (text : String) : String :=
  let filling := blanks (columns - width text)
  match alignment with
  | .left => " " ++ text ++ filling ++ " "
  | .right => " " ++ filling ++ text ++ " "

namespace Table

def titles (table : Table) : List String :=
  table.columns.map (·.title)

/-- The largest width of a column. -/
def maxColumns : Nat := Nat.pow 2 16 - 1

/-- The least widths in which the cells of a row fit, as far as they may, and that are
not less than the widths given. -/
def widen (widths : List Nat) (row : List String) : List Nat :=
  List.zipWith max widths (row.map fun text => min maxColumns (width text))

def widths (table : Table) : List Nat :=
  table.rows.foldl widen (widen (table.titles.map fun _ => 0) table.titles)

/-- The lines of a row with its cells filled up. -/
def renderRow (alignments : List Alignment) (widths : List Nat) (row : List String) :
    List String :=
  let cells := List.zipWith wrap widths row
  let height := (cells.map List.length).foldl max 0
  (List.range height).map fun number =>
    String.join (List.zipWith
      (fun (alignment, columns) lines => cell alignment columns (lines[number]?.getD ""))
      (alignments.zip widths) cells)

/-- Text of the titles and rows, each line with a line feed. -/
def render (table : Table) : String :=
  let top := renderRow (table.columns.map fun _ => .left) table.widths table.titles
  let rows := table.rows.flatMap (renderRow (table.columns.map (·.alignment)) table.widths)
  String.join ((top ++ rows).map (· ++ "\n"))

end Table

end CallLedger.Text

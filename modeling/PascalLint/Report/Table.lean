import PascalLint.Diagnostic
import PascalLint.Text.Width

/-! The report as a table drawn with `+`, `-`, `=` and `|`.

A cell may have several lines. Every column has a blank on either side; lines that are shorter than
it, counted in terminal columns, are filled up with blanks, and a cell with fewer lines than its row
with blank lines. The status line stands below the table.

How wide the columns are, and whether lines are broken to fit them, is up to an `Arranger`, for it
depends on the terminal. Where the output goes to no terminal, no line is broken, and every column is
as wide as its widest line (`unwrapped`). -/
namespace PascalLint.Report

/-- The lines of a cell. -/
abbrev Cell := List Text

namespace Table

/-- The width of the widest line of a cell. -/
def cellWidth (cell : Cell) : Nat := (cell.map Text.width).foldl max 0

/-- The width of each column, given the rows. Columns that a row does not reach keep the width
that the others give them. -/
def columnWidths : List (List Cell) → List Nat
  | [] => []
  | row :: rest => widen (row.map cellWidth) (columnWidths rest)
where
  /-- The greater width, column by column. -/
  widen : List Nat → List Nat → List Nat
    | [], others => others
    | widths, [] => widths
    | width :: widths, other :: others => max width other :: widen widths others

/-- A line filled up with blanks to a width in terminal columns. -/
def fill (width : Nat) (line : Text) : Text :=
  line ++ List.replicate (width - Text.width line) ' '

/-- A rule across the table: its left end, its line, its crossings and its right end. -/
def rule (left line cross right : Char) (widths : List Nat) : Text :=
  left :: Text.join [cross] (widths.map fun width => List.replicate (width + 2) line) ++ [right]

/-- The rule above and below the table. -/
def edge (widths : List Nat) : Text := rule '+' '-' '+' '+' widths

/-- The rule below the header. -/
def headerRule (widths : List Nat) : Text := rule '+' '=' '=' '+' widths

/-- The rule between two rows. -/
def rowRule (widths : List Nat) : Text := rule '|' '-' '+' '|' widths

/-- The lines of the cells next to each other, one of each. -/
def drawLine (widths : List Nat) (lines : List Text) : Text :=
  "| ".toList ++ Text.join " | ".toList (List.zipWith fill widths lines) ++ " |".toList

/-- The lines of one row. -/
def drawRow (widths : List Nat) (row : List Cell) : List Text :=
  let height := (row.map List.length).foldl max 0
  (List.range height).map fun i => drawLine widths (row.map fun cell => cell.getD i [])

/-- The lines of all rows, with a rule between neighbours. -/
def drawRows (widths : List Nat) : List (List Cell) → List Text
  | [] => []
  | [row] => drawRow widths row
  | row :: rest => drawRow widths row ++ rowRule widths :: drawRows widths rest

/-- A table as it is drawn: its cells, in which lines may have been broken, and the widths of its
columns. -/
structure Arrangement where
  header : List Cell
  rows : List (List Cell)
  widths : List Nat

/-- The lines of an arranged table. -/
def Arrangement.draw (a : Arrangement) : List Text :=
  edge a.widths :: drawRow a.widths a.header ++
    headerRule a.widths :: drawRows a.widths a.rows ++ [edge a.widths]

/-- A way to arrange a table, given its header and its rows. -/
abbrev Arranger := List Cell → List (List Cell) → Arrangement

/-- The arrangement without a limit to the width of the table. -/
def unwrapped : Arranger := fun header rows => ⟨header, rows, columnWidths (header :: rows)⟩

end Table

def tableHeader : List Cell :=
  [["Line".toList], ["Col".toList], ["Severity".toList], ["Code".toList], ["Message".toList]]

/-- The cells of one diagnostic. The column is counted from one. -/
def tableRow (d : Diagnostic) : List Cell :=
  [[Text.ofNat d.line], [Text.ofNat (d.column + 1)], [d.severity.name], Text.lines d.code,
    Text.lines d.text]

/-- The table report. -/
def table (arrange : Table.Arranger) (diagnostics : List Diagnostic) : Text :=
  Text.unlines ((arrange tableHeader (diagnostics.map tableRow)).draw ++
    [(Summary.ofList diagnostics).status])

end PascalLint.Report

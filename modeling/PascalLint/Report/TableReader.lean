import PascalLint.Report.Table

/-! Reading a drawn table back.

The top edge gives the width of every column. The lines between two rules belong to one row; each
is cut at the column boundaries, and every piece loses the blank before it and the blanks that
fill it up. -/
namespace PascalLint.Report.Table

/-- The widths of the columns under an edge, with the blanks on either side of each. -/
def edgeWidths (edge : Text) : List Nat :=
  ((Text.pieces (· == '+') edge).map List.length).tail.dropLast

/-- The characters of a text that fit a width in terminal columns, and the rest. -/
def takeWidth (width : Nat) : Text → Text × Text
  | [] => ([], [])
  | c :: rest =>
    if Text.charWidth c ≤ width then
      let (taken, left) := takeWidth (width - Text.charWidth c) rest
      (c :: taken, left)
    else ([], c :: rest)

/-- A piece of a line without the blank before it and the blanks that fill it up. -/
def unfill (piece : Text) : Text :=
  ((piece.drop 1).reverse.dropWhile (· == ' ')).reverse

/-- The pieces of a line, one for each column. -/
def cutLine : (widths : List Nat) → Text → List Text
  | [], _ => []
  | width :: widths, line =>
    let (piece, rest) := takeWidth width (line.drop 1)
    unfill piece :: cutLine widths rest

/-- Whether a line is a rule, and not part of a row. -/
def isRule (line : Text) : Bool := (line.drop 1).head? != some ' '

/-- The lines of each row, without the rules between them. -/
def rowLines : List Text → List (List Text)
  | [] => [[]]
  | line :: rest =>
    if isRule line then [] :: rowLines rest
    else match rowLines rest with
      | [] => [[line]]
      | row :: more => (line :: row) :: more

/-- The cells of a row, given its lines. -/
def rowCells (widths : List Nat) (lines : List Text) : List Cell :=
  (List.range widths.length).map fun i => lines.map fun line => (cutLine widths line).getD i []

/-- The rows of a drawn table, the header first. -/
def read : List Text → List (List Cell)
  | [] => []
  | edge :: lines => ((rowLines lines).filter (· ≠ [])).map (rowCells (edgeWidths edge))

end PascalLint.Report.Table

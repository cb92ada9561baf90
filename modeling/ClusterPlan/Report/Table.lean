import ClusterPlan.Text.Casing

/-!
# Tables

A table has a line of headers in upper case and a line for each row, with three blanks between
columns. A column is as wide as the most bytes of its header and cells; cells beyond the headers are
not padded.
-/

namespace ClusterPlan.Table

/-- The blanks between two columns. -/
def gap : List Char := [' ', ' ', ' ']

/-- A cell followed by blanks up to a number of characters. -/
def pad (width : Nat) (cell : List Char) : List Char :=
  cell ++ List.replicate (width - cell.length) ' '

/-- The widths of columns that also hold the cells of a row. -/
def widen : List Nat → List String → List Nat
  | width :: widths, cell :: cells => max width cell.utf8ByteSize :: widen widths cells
  | widths, _ => widths

/-- The widths of the columns of a table. -/
def widths (headers : List String) (rows : List (List String)) : List Nat :=
  rows.foldl widen (headers.map String.utf8ByteSize)

/-- The cells of a line, those that have a column padded to its width. -/
def padded : List Nat → List (List Char) → List (List Char)
  | width :: widths, cell :: cells => pad width cell :: padded widths cells
  | _, cells => cells

/-- The cells of a line one after the other, with gaps between them, and the end of the line. -/
def line (widths : List Nat) (cells : List (List Char)) : List Char :=
  List.flatten ((padded widths cells).intersperse gap) ++ ['\n']

/-- The table with headers and rows. -/
def render (headers : List String) (rows : List (List String)) : String :=
  if rows = [] then "No nodes.\n"
  else
    let widths := widths headers rows
    let head := line widths (headers.map fun h => Text.toUpper h.toList)
    String.ofList (head ++ rows.flatMap fun row => line widths (row.map String.toList))

end ClusterPlan.Table

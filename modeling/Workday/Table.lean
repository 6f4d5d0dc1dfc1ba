import Workday.Text.Width

/-!
This module contains tables drawn with `+`, `-` and `|`: a rule before, between and after the rows,
cells aligned to the left and filled up to the width of their column. A cell of several lines makes
its row as high as itself.
-/

namespace Workday.Table

open Text

/--
The lines of a cell. A line ends at a line feed, with a carriage return before it if there is one,
and an end of line after the last line adds none.
-/
def lines : List Char → List (List Char)
  | [] => []
  | '\n' :: cs => [] :: lines cs
  | '\r' :: '\n' :: cs => [] :: lines cs
  | c :: cs =>
    match lines cs with
    | [] => [[c]]
    | line :: rest => (c :: line) :: rest

abbrev Row := List (List (List Char))

def Row.height (row : Row) : Nat :=
  row.foldl (fun height cell => max height cell.length) 1

def cellWidth (cell : List (List Char)) : Nat :=
  cell.foldl (fun width line => max width (displayWidth line)) 0

def columnWidths : List Row → List Nat
  | [] => []
  | row :: rows => widen (row.map cellWidth) (columnWidths rows)
where
  widen : List Nat → List Nat → List Nat
    | [], others => others
    | widths, [] => widths
    | width :: widths, other :: others => max width other :: widen widths others

def rule (widths : List Nat) : List Char :=
  '+' :: widths.flatMap (fun width => List.replicate (width + 2) '-' ++ ['+']) ++ ['\n']

/--
A line of a cell between blanks, filled up to the width of its column.
-/
def fill (width : Nat) (line : List Char) : List Char :=
  ' ' :: line ++ List.replicate (width - displayWidth line) ' ' ++ [' ', '|']

def rowLine (widths : List Nat) (row : Row) (index : Nat) : List Char :=
  '|' :: (widths.zip row).flatMap (fun (width, cell) => fill width (cell.getD index [])) ++ ['\n']

def drawRow (widths : List Nat) (row : Row) : List Char :=
  (List.range row.height).flatMap (rowLine widths row) ++ rule widths

/--
Draw a table of cells. All rows have as many cells as the first one.
-/
def draw (cells : List (List String)) : String :=
  let rows : List Row := cells.map fun row => row.map fun cell => lines cell.toList
  let widths := columnWidths rows
  String.ofList (rule widths ++ rows.flatMap (drawRow widths))

end Workday.Table

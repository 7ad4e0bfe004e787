import LegendReport.Text.Lines
import LegendReport.Text.Styled

/-!
# Tables on a terminal

A table is drawn with a frame of box-drawing characters with round corners.
Each column is as wide as its widest cell, with a space on both sides, and the
header is set off by a double line.  A cell with line feeds takes several lines.
-/

namespace LegendReport

/-- On which side of its column a cell stands. -/
inductive Alignment where
  | left
  | right
  deriving DecidableEq, Repr

/-- A cell of a table. -/
structure Cell where
  text : String
  alignment : Alignment
  deriving DecidableEq, Repr

/-- A table with a header. -/
structure Table where
  header : List Cell
  rows : List (List Cell)
  deriving DecidableEq, Repr

namespace Cell

/-- A cell at the left side. -/
def left (text : String) : Cell :=
  ⟨text, .left⟩

/-- A cell at the right side. -/
def right (text : String) : Cell :=
  ⟨text, .right⟩

/-- The lines of a cell.  A style that is on at the end of a line goes on in the next one. -/
def lines (cell : Cell) : List String :=
  Text.closeStyles [] (Text.pieces '\n' cell.text)

/-- The columns of the terminal that a cell needs. -/
def width (cell : Cell) : Nat :=
  (cell.lines.map Text.styledWidth).foldl max 0

/-- A line of a cell in so many columns of the terminal. -/
def pad (alignment : Alignment) (width : Nat) (line : String) : String :=
  let space := String.ofList (List.replicate (width - Text.styledWidth line) ' ')
  match alignment with
  | .left => line ++ space
  | .right => space ++ line

end Cell

namespace Table

/-- The header and the rows. -/
def grid (table : Table) : List (List Cell) :=
  table.header :: table.rows

/-- The widths of the columns of two rows, column by column. -/
def maxWidths : List Nat → List Nat → List Nat
  | [], widths => widths
  | widths, [] => widths
  | w :: rest, w' :: rest' => max w w' :: maxWidths rest rest'

/-- The widths of the columns. -/
def widths (table : Table) : List Nat :=
  table.grid.foldl (fun widths row => maxWidths widths (row.map Cell.width)) []

/-- A rule through the table: its ends, what it crosses a column with, and what it is made of. -/
def rule (widths : List Nat) (first middle last stroke : String) : String :=
  let parts := widths.map fun width => String.join (List.replicate (width + 2) stroke)
  first ++ String.intercalate middle parts ++ last

/-- One line of text through the cells of a row. -/
def textLine (widths : List Nat) (row : List Cell) (index : Nat) : String :=
  let parts :=
    List.zipWith
      (fun width (cell : Cell) =>
        " " ++ Cell.pad cell.alignment width (cell.lines.getD index "") ++ " ")
      widths row
  "│" ++ String.intercalate "┆" parts ++ "│"

/-- The lines of a row. -/
def rowLines (widths : List Nat) (row : List Cell) : List String :=
  (List.range ((row.map (·.lines.length)).foldl max 0)).map (textLine widths row)

/-- The lines of a table. -/
def lines (table : Table) : List String :=
  rule table.widths "╭" "┬" "╮" "─" ::
    rowLines table.widths table.header ++
    rule table.widths "╞" "╪" "╡" "═" ::
    table.rows.flatMap (rowLines table.widths) ++
    [rule table.widths "╰" "┴" "╯" "─"]

/-- The text of a table. -/
def render (table : Table) : String :=
  String.join (table.lines.map (· ++ "\n"))

end Table

end LegendReport

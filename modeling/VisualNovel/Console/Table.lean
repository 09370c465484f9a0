import VisualNovel.Text.Columns

/-!
# Ruled tables

A table of texts in plain characters: a header, rows with a rule between any two, and columns as
wide as the widest line in them with a blank on either side. A line break in a text makes its row
higher.
-/

namespace VisualNovel.Console

/-- A header and rows of as many cells. -/
structure Table where
  header : List String
  rows : List (List String)

namespace Table

/-- The lines of a cell. -/
def cellLines (cell : String) : List String := cell.splitOn "\n"

/-- The columns of a terminal that a cell takes between the rules. -/
def cellWidth (cell : String) : Nat :=
  ((cellLines cell).map Text.columns).foldl max 0 + 2

/-- The widths of the columns, each as wide as its widest cell. -/
def widths (t : Table) : List Nat :=
  t.rows.foldl (fun ws row => List.zipWith (fun w cell => max w (cellWidth cell)) ws row)
    (t.header.map cellWidth)

/-- A run of one character. -/
def run (c : Char) (n : Nat) : String := String.ofList (List.replicate n c)

/-- A rule across the table. -/
def rule (corner : String) (ws : List Nat) : String :=
  corner ++ "+".intercalate (ws.map (run '-')) ++ corner

/-- The rule below the header. -/
def headerRule (ws : List Nat) : String :=
  "+" ++ "=".intercalate (ws.map (run '=')) ++ "+"

/-- A line of a cell, filled up to the width of its column. -/
def padded (line : String) (width : Nat) : String :=
  " " ++ line ++ run ' ' (width - 1 - Text.columns line)

/-- The lines of a row. -/
def rowLines (ws : List Nat) (row : List String) : List String :=
  let cells := row.map cellLines
  let height := (cells.map List.length).foldl max 1
  (List.range height).map fun i =>
    "|" ++ "|".intercalate (List.zipWith (fun cell w => padded (cell[i]?.getD "") w) cells ws)
      ++ "|"

/-- The lines of the table. -/
def lines (t : Table) : List String :=
  let ws := t.widths
  let rows := t.rows.map (rowLines ws)
  [rule "+" ws] ++ rowLines ws t.header ++ [headerRule ws]
    ++ [rule "|" ws].intercalate rows ++ [rule "+" ws]

end Table

end VisualNovel.Console

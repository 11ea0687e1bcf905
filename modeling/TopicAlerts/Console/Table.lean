import TopicAlerts.Text.Split
import TopicAlerts.Text.Width

/-!
# Tables

A table has a row of titles and rows of cells, with lines between them. A column is as wide as its
widest line; a cell of several lines makes its row as high.
-/

namespace TopicAlerts.Console

/-- A column of a table. -/
structure Column where
  /-- The title. -/
  title : String
  /-- Whether the cells below the title are centred. -/
  isCentred : Bool := false

namespace Table

/-- Spaces. -/
def spaces (count : Nat) : String := String.ofList (List.replicate count ' ')

/-- A line of a cell that takes the given width; of an odd rest the greater part is put before a
centred line. -/
def aligned (isCentred : Bool) (width : Nat) (text : String) : String :=
  let rest := width - Text.width text
  if isCentred then spaces ((rest + 1) / 2) ++ text ++ spaces (rest / 2)
  else text ++ spaces rest

/-- The lines of a row of cells, which are given by their lines; each cell has its width and whether
it is centred. -/
def row (shape : List (Nat × Bool)) (cells : List (List String)) : String :=
  let height := (cells.map List.length).foldl max 1
  let lineOf (i : Nat) : String :=
    Text.join " " ((shape.zip cells).map fun ((width, isCentred), lines) =>
      " " ++ aligned isCentred width (lines.getD i "") ++ " ")
  String.join ((List.range height).map fun i => lineOf i ++ "\n")

/-- A line across the table. -/
def rule (shape : List (Nat × Bool)) (c : Char) : String :=
  let width := shape.foldl (fun sum (width, _) => sum + width + 2) (shape.length - 1)
  String.ofList (List.replicate width c) ++ "\n"

/-- The text of a table. -/
def render (columns : List Column) (rows : List (List String)) : String :=
  let cells := rows.map fun row => row.map (Text.split '\n')
  let shape := (List.range columns.length).zip columns |>.map fun (i, column) =>
    let lines := column.title :: cells.flatMap fun row => row.getD i []
    ((lines.map Text.width).foldl max 1, column.isCentred)
  rule shape '─' ++ row (shape.map fun (width, _) => (width, false)) (columns.map ([·.title]))
    ++ rule shape '═' ++ String.join (cells.map fun cells => row shape cells ++ rule shape '─')

end Table

end TopicAlerts.Console

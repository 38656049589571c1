import MatlabTidy.Console.Wrap

/-!
# Tables on the console

A table has a title, a header and rows. A column is as wide as its widest line, with a space on
each side; the first column is set to the left and the others to the right. A cell may have several
lines. The title is centred above the table.
-/

namespace MatlabTidy.Console

/-- A column of a table. -/
structure Column where
  header : String
  toRight : Bool
  cells : List String

/-- How the lines of a column are set. -/
structure Layout where
  /-- The number of terminal cells of a line. -/
  width : Nat
  toRight : Bool

/-- The layout of a column, which is as wide as it needs to be. -/
def Column.layout (column : Column) : Layout :=
  ⟨((column.header :: column.cells).map widthOf).foldl max 0, column.toRight⟩

namespace Layout

/-- The spaces that a line lacks to the width of the column. -/
def space (layout : Layout) (line : List Char) : List Char :=
  List.replicate (layout.width - Text.cellLength line) ' '

/-- A line of a cell, padded to the width of the column and with a space on each side. A joiner at
the end of the line hides the first space behind it, so that the padded line may lack one more. -/
def pad (layout : Layout) (line : List Char) : String :=
  let padded := if layout.toRight then layout.space line ++ line else line ++ layout.space line
  String.ofList (' ' :: padded ++ layout.space padded ++ [' '])

/-- A stroke over the width of the column. -/
def rule (stroke : Char) (layout : Layout) : String :=
  String.ofList (List.replicate (layout.width + 2) stroke)

end Layout

/-- A line of a table: what stands in each column, between the given edges. -/
def edged (left middle right : String) (parts : List String) : String :=
  left ++ middle.intercalate parts ++ right

/-- The text centred in the given number of cells; an odd space goes to the right. -/
def centre (width : Nat) (text : String) : String :=
  let space := width - Text.cellLength text.toList
  let left := space / 2
  String.ofList (List.replicate left ' ') ++ text ++ String.ofList (List.replicate (space - left) ' ')

/-- The lines of a row: cells with fewer lines than others are filled with blank lines. -/
def rowLines (layouts : List Layout) (row : List String) : List (List String) :=
  let cells := layouts.zipWith (fun layout cell => (layout, cellLines layout.width cell)) row
  let height := (cells.map fun cell => cell.2.length).foldl max 0
  (List.range height).map fun i => cells.map fun (layout, lines) => layout.pad (lines[i]?.getD [])

/-- The rows of a table, from the cells of its columns. -/
def rows (columns : List Column) : List (List String) :=
  let count := (columns.map fun column => column.cells.length).foldl max 0
  (List.range count).map fun i => columns.map fun column => column.cells[i]?.getD ""

/-- The lines of a table. -/
def table (title : String) (columns : List Column) : List String :=
  let layouts := columns.map Column.layout
  let headers := layouts.zipWith (fun layout column => layout.pad column.header.toList) columns
  let top := edged "┏" "┳" "┓" (layouts.map (Layout.rule '━'))
  let header := edged "┃" "┃" "┃" headers
  let under := edged "┡" "╇" "┩" (layouts.map (Layout.rule '━'))
  let body := ((rows columns).flatMap (rowLines layouts)).map (edged "│" "│" "│")
  let bottom := edged "└" "┴" "┘" (layouts.map (Layout.rule '─'))
  centre top.length title :: top :: header :: under :: body ++ [bottom]

end MatlabTidy.Console

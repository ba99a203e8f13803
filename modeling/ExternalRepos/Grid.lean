import ExternalRepos.Text.Wrapped

/-!
# Grids

A grid is a titled table drawn with lines around its cells. A column is as wide
as the widest line in it, the heading included; every cell stands between two
spaces and is filled up with spaces on the right. A row is as high as its highest
cell. Where tabs or wide blanks make a line wider than its column, columns that
wrap continue it below, and what is still too wide ends with an ellipsis.

The title is centred above, with the smaller half of the space on its left, and
wrapped if it is wider than the grid.
-/

namespace ExternalRepos

/-- A column of a grid. -/
structure Column where
  heading : String
  /-- Whether lines that are wider than the column are continued below. -/
  wraps : Bool
  deriving DecidableEq, Inhabited

/-- A table with a title, columns, and rows of as many cells. -/
structure Grid (size : Nat) where
  title : String
  columns : Vector Column size
  rows : List (Vector String size)

namespace Grid

variable {size : Nat}

/-- The characters of a line that separates rows. -/
structure Border where
  left : Char
  line : Char
  between : Char
  right : Char

/-- The line above the heading. -/
def topBorder : Border := ⟨'┏', '━', '┳', '┓'⟩

/-- The line below the heading. -/
def headingBorder : Border := ⟨'┡', '━', '╇', '┩'⟩

/-- The line below the rows. -/
def bottomBorder : Border := ⟨'└', '─', '┴', '┘'⟩

/-- The character that separates the cells of the heading. -/
def headingEdge : Char := '┃'

/-- The character that separates the cells of a row. -/
def rowEdge : Char := '│'

/-- The mark at the end of a line that is cut. -/
def ellipsis : Char := '…'

/-- The characters that end a line when columns are measured. -/
def endsLine (char : Char) : Bool :=
  [0xa, 0xb, 0xc, 0xd, 0x1c, 0x1d, 0x1e, 0x85, 0x2028, 0x2029].contains char.toNat

/-- The width of the widest line of a cell. -/
def cellWidth (cell : String) : Nat :=
  ((cell.toList.splitOnP endsLine).map Text.width).foldl max 0

/-- The widths of the columns. -/
def columnWidths (grid : Grid size) : Vector Nat size :=
  grid.rows.foldl (fun widths row => widths.zipWith max (row.map cellWidth))
    (grid.columns.map fun column => cellWidth column.heading)

/-- The width of the grid: two spaces and an edge for each column, and one more edge. -/
def totalWidth (widths : Vector Nat size) : Nat :=
  widths.foldl (fun total width => total + width + 3) 1

/-- A line between rows. -/
def borderLine (border : Border) (widths : Vector Nat size) : List Char :=
  border.left ::
    List.intercalate [border.between]
      (widths.toList.map fun width => List.replicate (width + 2) border.line) ++ [border.right]

/-- A line at the left of a width. -/
def leftAligned (width : Nat) (line : List Char) : List Char :=
  if width < Text.width line then Text.fit (width - 1) line ++ [ellipsis]
  else Text.fit width line

/-- The lines of a cell in a column of a given width. -/
def cellLines (wraps : Bool) (width : Nat) (cell : String) : List (List Char) :=
  let lines := if wraps then Text.wrap .keep width cell.toList else Text.unwrapped width cell.toList
  lines.map (leftAligned width)

/-- A line of a row: each column's width and the line of its cell, if the cell is high enough. -/
def rowLine (edge : Char) (cells : List (Nat × Option (List Char))) : List Char :=
  edge :: List.intercalate [edge] (cells.map fun (width, line) =>
    ' ' :: line.getD (List.replicate width ' ') ++ [' ']) ++ [edge]

/-- The lines of a row. -/
def rowLines (edge : Char) (columns : Vector Column size) (widths : Vector Nat size)
    (row : Vector String size) : List (List Char) :=
  let cells := (List.finRange size).map fun index =>
    (widths[index], cellLines columns[index].wraps widths[index] row[index])
  let height := (cells.map fun cell => cell.2.length).foldl max 0
  (List.range height).map fun line =>
    rowLine edge (cells.map fun cell => (cell.1, cell.2[line]?))

/-- A line in the middle of a width. -/
def centred (width : Nat) (line : List Char) : List Char :=
  let text := Text.trimEnd line
  let shown := if width < Text.width text then Text.fit width text else text
  let space := width - Text.width shown
  List.replicate (space / 2) ' ' ++ shown ++ List.replicate (space - space / 2) ' '

/-- The lines of the title. -/
def titleLines (title : String) (width : Nat) : List (List Char) :=
  (Text.wrap .cut width title.toList).map (centred width)

/-- The lines of a grid. -/
def lines (grid : Grid size) : List (List Char) :=
  let widths := grid.columnWidths
  titleLines grid.title (totalWidth widths) ++
    [borderLine topBorder widths] ++
    rowLines headingEdge grid.columns widths (grid.columns.map Column.heading) ++
    [borderLine headingBorder widths] ++
    grid.rows.flatMap (rowLines rowEdge grid.columns widths) ++
    [borderLine bottomBorder widths]

/-- The text of a grid, every line closed by a line feed. -/
def written (grid : Grid size) : String :=
  String.ofList (grid.lines.flatMap fun line => line ++ ['\n'])

end Grid

end ExternalRepos

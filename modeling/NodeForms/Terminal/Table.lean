import NodeForms.Terminal.Lines

/-!
# Tables

A table has a title above it and columns with headings. Each column is as wide as its
widest cell, or wider if it has a least width, and cells have a blank on either side. The
headings stand in a heavy box, the rows in a light one, and the rows of a ruled table have
lines between them. A cell may take several lines; it stands at the top of its row.
-/

namespace NodeForms

structure Column where
  heading : String
  least : Nat := 0
  alignment : Alignment := .left
deriving Inhabited

structure Table where
  title : String
  columns : List Column
  rows : List (List String)
  ruled : Bool := false

/-- The characters a horizontal line of a table is made of. -/
structure Border where
  left : Char
  across : Char
  crossing : Char
  right : Char

namespace Border

def top : Border := ⟨'┏', '━', '┳', '┓'⟩

def head : Border := ⟨'┡', '━', '╇', '┩'⟩

def between : Border := ⟨'├', '─', '┼', '┤'⟩

def foot : Border := ⟨'└', '─', '┴', '┘'⟩

/-- A horizontal line over columns of given widths, a blank on either side of each. -/
def line (border : Border) (widths : List Nat) : List Char :=
  border.left ::
    ((widths.map fun width => List.replicate (width + 2) border.across).intersperse
      [border.crossing]).flatten ++ [border.right]

end Border

namespace Table

def columnWidth (column : Column) (cells : List String) : Nat :=
  max column.least (((column.heading :: cells).map Line.widest).foldl max 0)

def cellsAt (table : Table) (position : Nat) : List String :=
  table.rows.map fun row => (row[position]?).getD ""

def widthsFrom (table : Table) (position : Nat) : List Column → List Nat
  | [] => []
  | column :: columns =>
      columnWidth column (table.cellsAt position) :: widthsFrom table (position + 1) columns

def widths (table : Table) : List Nat := table.widthsFrom 0 table.columns

/-- The columns a line of the table takes: each cell has a blank on either side, and a
line on its right; the first one has a line on its left too. -/
def width (table : Table) : Nat :=
  table.widths.foldr (fun width total => width + 3 + total) 1

def cellLines : List Column → List Nat → List String → List (List (List Char))
  | column :: columns, width :: widths, cell :: cells =>
      Line.wrapAligned column.alignment .ellipsis width cell :: cellLines columns widths cells
  | _, _, _ => []

/-- One line of a row between vertical lines, blanks in the place of a cell with fewer
lines. -/
def rowLine (edge : Char) (position : Nat) :
    List Nat → List (List (List Char)) → List Char
  | width :: widths, cell :: cells =>
      edge :: ' ' :: ((cell[position]?).getD (Line.blanks width))
        ++ ' ' :: rowLine edge position widths cells
  | _, _ => [edge]

def rowLines (table : Table) (edge : Char) (cells : List String) : List (List Char) :=
  let lines := cellLines table.columns table.widths cells
  let height := (lines.map List.length).foldl max 0
  (List.range height).map fun position => rowLine edge position table.widths lines

def titleLines (table : Table) : List (List Char) :=
  Line.wrapAligned .center .fold table.width table.title

def bodyLines (table : Table) : List (List Char) :=
  let rows := table.rows.map (table.rowLines '│')
  if table.ruled then (rows.intersperse [Border.between.line table.widths]).flatten
  else rows.flatten

def lines (table : Table) : List (List Char) :=
  table.titleLines ++ Border.top.line table.widths
    :: table.rowLines '┃' (table.columns.map Column.heading)
    ++ Border.head.line table.widths :: table.bodyLines ++ [Border.foot.line table.widths]

end Table

end NodeForms

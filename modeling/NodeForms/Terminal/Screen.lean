import NodeForms.Terminal.Markup
import NodeForms.Terminal.Table

/-!
# Writing to a screen

Texts and tables are written to a screen of a fixed width. Both may be marked up. A table
is assumed to fit the screen.
-/

namespace NodeForms

namespace Screen

def width : Nat := 4000

def linesText (lines : List (List Char)) : String :=
  String.ofList (lines.flatMap fun line => line ++ ['\n'])

def ofText (text : String) : Except Markup.Fault String :=
  (Markup.plain text).map fun plain => linesText (Line.wrap .fold width plain)

/-- What writing a table leaves on the screen; its title and its cells are marked up. The tags
of the cells are followed column by column, to find out how wide these are, then the title is
written, and then the rows. -/
def ofTable (table : Table) : Except Markup.Fault String := do
  for place in List.range table.columns.length do
    for row in table.rows do
      let _ ← Markup.follow (row.getD place "")
  let title ← Markup.plain table.title
  let rows ← table.rows.mapM fun row => row.mapM Markup.plain
  return linesText { table with title, rows }.lines

end Screen

end NodeForms

import Bindery.Display.Layout

/-!
# Tables

A table has a title, columns with headings, and rows of cells, all written as markup.  It is drawn
with lines around its cells.  Every column is as wide as its widest cell where the screen has room
for that, and the widest columns are made narrower where it has not.  The title stands in the middle
above the whole table.
-/

namespace Bindery.Display

open Bindery.Text

/-- A column of a table. -/
structure Column where
  heading : String
  alignment : Alignment := .left
  deriving DecidableEq, Repr

/-- A table. Every row has one cell for each column. -/
structure Table where
  title : String
  columns : List Column
  rows : List (List String)
  deriving DecidableEq, Repr

/-- The columns of rows, or the rows of columns, all of one length. -/
def transpose {α : Type} : List (List α) → List (List α)
  | [] => []
  | [row] => row.map ([·])
  | row :: more => List.zipWith (· :: ·) row (transpose more)

/-! ## Widths of columns -/

/-- The cells of all columns together. -/
def total (widths : List Nat) : Nat := widths.foldr (· + ·) 0

/-- A quotient to the nearest number, and to an even one of two that are equally near. -/
def nearest (number divisor : Nat) : Nat :=
  let quotient := number / divisor
  let left := 2 * (number % divisor)
  if left < divisor || (left = divisor && quotient % 2 = 0) then quotient else quotient + 1

/-- Takes an amount off numbers in equal shares, and off each no more than its limit. One whose
limit is zero has no share. -/
def takeShares (amount shares : Nat) : List (Nat × Nat) → List Nat
  | [] => []
  | (number, limit) :: more =>
    if limit = 0 then number :: takeShares amount shares more
    else
      let taken := min limit (nearest amount shares)
      (number - taken) :: takeShares (amount - taken) (shares - 1) more

/-- Widths of which the greatest ones are made smaller so that they fit a room, but not smaller than
the next ones. -/
def narrow (room : Nat) (widths : List Nat) : List Nat :=
  let greatest := widths.foldl max 0
  let next := (widths.filter (· ≠ greatest)).foldl max 0
  let excess := total widths - room
  takeShares excess (widths.count greatest) <| widths.map fun width =>
    (width, if width = greatest then min excess (greatest - next) else 0)

/-- Widths that fit a room: the greatest ones are made smaller until they do. -/
def fit (room : Nat) (widths : List Nat) : List Nat :=
  let smaller := narrow room widths
  if _ : room < total widths ∧ total smaller < total widths then fit room smaller else widths
termination_by total widths
decreasing_by
  rename_i shrinks
  exact shrinks.2

/-! ## Rules and rows -/

/-- The characters of a rule across a table. -/
structure Rule where
  left : Char
  line : Char
  divider : Char
  right : Char

/-- A rule across columns. -/
def Rule.draw (rule : Rule) (widths : List Nat) : List Char :=
  rule.left :: join rule.divider (widths.map (List.replicate · rule.line)) ++ [rule.right]

/-- How the cells of a column of some width are put on lines. A blank stands on both sides. -/
def Column.layout (column : Column) (width : Nat) : Layout where
  width := width - 2
  ellipsis := true
  alignment := some column.alignment

/-- The lines of a cell in a column of some width. A joiner at the end of a line joins one of the
blanks that fill it, so there is another one. -/
def Column.draw (column : Column) (width : Nat) (cell : Markup.Shown) :
    Except Markup.Error (List (List Char)) :=
  ((column.layout width).draw cell).map fun lines =>
    lines.map fun line => ' ' :: padRight (width - 2) line ++ [' ']

/-- Where the cells of a row stand that have fewer lines than others. -/
inductive Side where
  | top | bottom
  deriving DecidableEq, Repr

/-- A line of a cell in a row of the given height. -/
def Side.line (side : Side) (height width index : Nat) (lines : List (List Char)) : List Char :=
  let above := if side = .bottom then height - lines.length else 0
  (if above ≤ index then lines[index - above]? else none).getD (gap width)

/-- A row of cells with an edge around each of them. -/
def drawRow (edge : Char) (side : Side) (widths : List Nat) (cells : List (List (List Char))) :
    List (List Char) :=
  let height := (cells.map (·.length)).foldl max 1
  (List.range height).map fun index =>
    edge :: (widths.zip cells).flatMap fun (width, lines) =>
      side.line height width index lines ++ [edge]

namespace Table

/-- The rule above the headings. -/
def top : Rule := ⟨'┏', '━', '┳', '┓'⟩

/-- The rule below the headings. -/
def belowHeadings : Rule := ⟨'┡', '━', '╇', '┩'⟩

/-- The rule below the rows. -/
def bottom : Rule := ⟨'└', '─', '┴', '┘'⟩

/-- The cells of a table with its headings. -/
def cells (table : Table) : List (List String) :=
  table.columns.map (·.heading) :: table.rows

/-- The room for columns on a screen: the edges of the cells do not belong to it. -/
def room (table : Table) (screen : Nat) : Nat := screen - (table.columns.length + 1)

/-- Cells of markup as shown texts, one column after the other. -/
def shownCells (rows : List (List String)) : Except Markup.Error (List (List Markup.Shown)) := do
  let columns ← (transpose rows).mapM (·.mapM Markup.shown)
  return transpose columns

/-- What is shown in the cells of a table. They are not read where no column can show any of it. -/
def read (table : Table) (screen : Nat) : Except Markup.Error (List (List Markup.Shown)) :=
  if table.room screen < 3 then return table.cells.map (·.map fun _ => {})
  else shownCells table.cells

/-- The cells of the widest line in every column, given what is shown in its cells. -/
def widest (table : Table) (rows : List (List Markup.Shown)) : List Nat :=
  (rows.map (·.map fun cell => Text.widest cell.text)).foldl (List.zipWith max)
    (table.columns.map fun _ => 0)

/-- The width of every column on a screen, given what is shown in its cells. -/
def widths (table : Table) (screen : Nat) (rows : List (List Markup.Shown)) : List Nat :=
  fit (table.room screen) <| (table.widest rows).map fun cells =>
    max 1 (min (cells + 2) (table.room screen))

/-- The width of a table, given those of its columns. -/
def fullWidth (widths : List Nat) : Nat := total widths + widths.length + 1

/-- How a title is put on lines above a table of some width. -/
def titleLayout (width : Nat) : Layout where
  width := width
  alignment := some .center

/-- The lines above a table. -/
def drawTitle (table : Table) (width : Nat) : Except Markup.Error (List (List Char)) :=
  if table.title.isEmpty then .ok [] else (titleLayout width).drawMarkup table.title

/-- The lines of the cells of a table. -/
def drawCells (table : Table) (widths : List Nat) (rows : List (List Markup.Shown)) :
    Except Markup.Error (List (List (List (List Char)))) :=
  rows.mapM fun row => ((table.columns.zip widths).zip row).mapM fun ((column, width), cell) =>
    column.draw width cell

/-- A line of a table on a screen that may be too narrow for it. -/
def crop (screen width : Nat) (line : List Char) : List Char :=
  if width ≤ screen then line else truncate screen false line

/-- The lines of a table on a screen, given those of its title and of its cells. -/
def assemble (screen : Nat) (widths : List Nat) (title : List (List Char))
    (rows : List (List (List (List Char)))) : List (List Char) :=
  let lines := title ++ [top.draw widths] ++
    (rows.take 1).flatMap (drawRow '┃' .bottom widths) ++ [belowHeadings.draw widths] ++
    (rows.drop 1).flatMap (drawRow '│' .top widths) ++ [bottom.draw widths]
  lines.map (crop screen (fullWidth widths))

/-- The lines of a table on a screen. All its cells are read before its title, and the title is
drawn before them. Nothing is drawn on a screen without cells. -/
def draw (table : Table) (screen : Nat) : Except Markup.Error (List (List Char)) := do
  if screen = 0 then return []
  let shown ← table.read screen
  let widths := table.widths screen shown
  let title ← table.drawTitle (fullWidth widths)
  let rows ← table.drawCells widths shown
  return assemble screen widths title rows

end Table

end Bindery.Display

import Bindery.Display.Markup
import Bindery.Text.Wrap

/-!
# Texts on the lines of a screen

A text with styles is drawn on lines that take no more cells than its place has.  It takes a style
to draw one, whether it describes one or not, so a text cannot be drawn if a style of what remains
of it cannot be read.
-/

namespace Bindery.Display

open Bindery.Text

/-- Where the lines of a text are put between the blanks that fill their place. -/
inductive Alignment where
  | left | center | right
  deriving DecidableEq, Repr

/-- A line with blanks that fill its place. -/
def Alignment.pad (alignment : Alignment) (width : Nat) (line : List Char) : List Char :=
  match alignment with
  | left => padRight width line
  | center => Text.center width line
  | right => padLeft width line

/-- Whether blanks at the end of a line are dropped before others fill its place. -/
def Alignment.trims : Alignment → Bool
  | left => false
  | center | right => true

/-- How a text is put on lines. -/
structure Layout where
  /-- The cells of a line. -/
  width : Nat
  /-- Whether a line that is too wide goes on below. -/
  wraps : Bool := true
  /-- Whether a line that still is too wide ends with an ellipsis; a word that is too wide is folded
  otherwise. -/
  ellipsis : Bool := false
  /-- Where lines are put, if blanks fill their place. -/
  alignment : Option Alignment := none
  deriving DecidableEq, Repr

namespace Markup.Shown

/-! ## Parts of a text -/

/-- A part of a text, given what stands before it. A span that has nothing in it is left out. -/
def slice (shown : Shown) (before : Nat) (part : List Char) : Shown where
  text := part
  spans := shown.spans.filterMap fun span =>
    let start := span.start - before
    let stop := min (span.stop - before) part.length
    if start < stop then some { span with start := start, stop := stop } else none

/-- The parts of a text with a separator of the given length between them, given what stands
before them. -/
def slices (shown : Shown) (separator before : Nat) : List (List Char) → List Shown
  | [] => []
  | part :: more =>
    shown.slice before part :: shown.slices separator (before + part.length + separator) more

/-- The parts of a text. One that is not divided keeps all its spans. -/
def divide (shown : Shown) (separator : Nat) (parts : List (List Char)) : List Shown :=
  if parts.length ≤ 1 then [shown] else shown.slices separator 0 parts

/-- The lines of a text. -/
def lines (shown : Shown) : List Shown := shown.divide 1 (Text.lines shown.text)

/-- Another text with the spans that start in it. -/
def become (shown : Shown) (text : List Char) : Shown where
  text := text
  spans :=
    if text.length < shown.text.length then shown.spans.filter (·.start < text.length)
    else shown.spans

/-! ## Tabs -/

/-- A text and another one after it. -/
def concat (first second : Shown) : Shown where
  text := first.text ++ second.text
  spans := first.spans ++ second.spans.map fun span =>
    { span with start := first.text.length + span.start, stop := first.text.length + span.stop }

/-- The part of a line before a tab, given the cells before it. The tab is a blank, and as many more
as lead to the next place have the style of that blank. -/
def leadOn (part : Shown) (before : Nat) : Shown :=
  let missing := toNextTab (before + cells part.text)
  { text := part.text ++ gap missing
    spans := part.spans.map fun span =>
      if part.text.length ≤ span.stop then { span with stop := span.stop + missing } else span }

/-- Parts of a line with a tab between each two of them, each with a blank for the tab after it,
given the cells before them. -/
def expandParts (before : Nat) : List Shown → Shown
  | [] => {}
  | [part] => part
  | part :: more =>
    let part := part.leadOn before
    part.concat (expandParts (before + cells part.text) more)

/-- A line with its tabs replaced by blanks. -/
def expandTabs (line : Shown) : Shown :=
  if line.text.contains '\t' then
    let parts := split (· = '\t') line.text
    expandParts 0 (line.slices 0 0 (parts.dropLast.map (· ++ [' ']) ++ parts.getLast?.toList))
  else line

end Markup.Shown

/-! ## Drawing -/

namespace Layout

open Markup

/-- A line before it is filled with blanks. -/
def finish (layout : Layout) (line : Shown) : Shown :=
  let line := line.become (trimEnd layout.width line.text)
  let line :=
    if layout.alignment.any (·.trims) then line.become (trimRight line.text) else line
  line.become (truncate layout.width layout.ellipsis line.text)

/-- The lines that one line of a text takes. -/
def arrange (layout : Layout) (line : Shown) : List Shown :=
  let line := line.expandTabs
  let parts :=
    if layout.wraps then line.divide 0 (wrap layout.width (! layout.ellipsis) line.text)
    else [line]
  parts.map layout.finish

/-- A line as it is drawn. -/
def fill (layout : Layout) (line : List Char) : List Char :=
  match layout.alignment with
  | some alignment => alignment.pad layout.width line
  | none => line

/-- The lines of a text before they are filled with blanks. There is nothing to draw in a place
that has no cells. -/
def lay (layout : Layout) (shown : Shown) : List Shown :=
  if layout.width = 0 then [] else shown.lines.flatMap layout.arrange

/-- The lines of a text as they are drawn. -/
def draw (layout : Layout) (shown : Shown) : Except Markup.Error (List (List Char)) := do
  let lines := layout.lay shown
  lines.forM fun line => line.spans.forM fun span =>
    ((Style.parse span.style).mapError Error.level).map fun _ => ()
  return lines.map fun line => layout.fill line.text

/-- The lines of markup as they are drawn. -/
def drawMarkup (layout : Layout) (markup : String) : Except Markup.Error (List (List Char)) := do
  layout.draw (← Markup.shown markup)

end Layout

end Bindery.Display

import Bindery.Text.Ranges

/-!
# Blank characters

Which characters count as blank, and how blanks are taken off the ends of a text and off the
left margin of its lines.
-/

namespace Bindery.Text

/-- Code points of the blank characters: the ASCII controls that separate fields or lines, and
every Unicode space or line separator. -/
def blanks : Ranges := [
  (0x09, 0x0D), (0x1C, 0x20), (0x85, 0x85), (0xA0, 0xA0), (0x1680, 0x1680), (0x2000, 0x200A),
  (0x2028, 0x2029), (0x202F, 0x202F), (0x205F, 0x205F), (0x3000, 0x3000)]

/-- Whether a character is blank. -/
def isBlank (c : Char) : Bool := blanks.contains c.toNat

/-- A text that is there and not empty. -/
def filled (text : Option String) : Option String := text.filter (! ·.isEmpty)

/-- A text without the blanks at its end. -/
def trimRight (text : List Char) : List Char := (text.reverse.dropWhile isBlank).reverse

/-- A text without the blanks at its two ends. -/
def strip (text : List Char) : List Char := trimRight (text.dropWhile isBlank)

/-- The lines of a text; a text with `n` line feeds has `n + 1` lines. -/
def lines : List Char → List (List Char)
  | [] => [[]]
  | c :: rest =>
    if c = '\n' then [] :: lines rest
    else match lines rest with
      | line :: more => (c :: line) :: more
      | [] => [[c]]

/-- Lines put back together with line feeds between them. -/
def unlines : List (List Char) → List Char
  | [] => []
  | [line] => line
  | line :: more => line ++ '\n' :: unlines more

/-- Whether a character can indent a line. -/
def isIndent (c : Char) : Bool := c = ' ' || c = '\t'

/-- The longest text that both texts start with. -/
def commonStart : List Char → List Char → List Char
  | a :: first, b :: second => if a = b then a :: commonStart first second else []
  | _, _ => []

/-- The indentation that all lines share; lines that hold nothing do not count. -/
def margin (texts : List (List Char)) : List Char :=
  match (texts.filter (! ·.isEmpty)).map (·.takeWhile isIndent) with
  | [] => []
  | first :: more => more.foldl commonStart first

/-- A line without the margin, where it starts with it. -/
def dropMargin (margin line : List Char) : List Char :=
  if margin.isPrefixOf line then line.drop margin.length else line

/-- A text with its shared left margin taken away and its ends stripped.  Lines of spaces and
tabs become empty. -/
def dedent (text : List Char) : List Char :=
  let rows := (lines text).map fun line => if line.all isIndent then [] else line
  strip (unlines (rows.map (dropMargin (margin rows))))

end Bindery.Text

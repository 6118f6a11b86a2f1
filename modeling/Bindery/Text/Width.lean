import Bindery.Text.Blank
import Bindery.Text.Split
import Bindery.Text.WidthTable

/-!
# Widths on a screen

A line of a screen is made of cells.  How many of them a text takes decides how it is aligned.
-/

namespace Bindery.Text

/-- The cells that one character takes. -/
def charCells (c : Char) : Nat :=
  if emptyWidth.contains c.toNat then 0
  else if doubleWidth.contains c.toNat then 2
  else 1

/-- The character that joins the one after it to the one before it. -/
def joiner : Char := '\u200d'

/-- The character that makes an emoji of the one before it. -/
def emojiSelector : Char := '\ufe0f'

/-- The cells that a text takes, given the last character before it that takes any, and whether a
joiner stands right before it. A joiner puts the next character into the cells of the one before it,
and a selector can make that wider. -/
def cellsAfter (last : Option Char) (joins : Bool) : List Char → Nat
  | [] => 0
  | c :: rest =>
    if joins then cellsAfter last false rest
    else if c = joiner then cellsAfter last true rest
    else if c = emojiSelector && last.any (widened.contains ·.toNat) then
      1 + cellsAfter none false rest
    else charCells c + cellsAfter (if charCells c = 0 then last else some c) false rest

/-- The cells that a text takes. -/
def cells (text : List Char) : Nat := cellsAfter none false text

/-- Whether a character ends a line. -/
def isLineBreak (c : Char) : Bool :=
  Ranges.contains [(0x0A, 0x0D), (0x1C, 0x1E), (0x85, 0x85), (0x2028, 0x2029)] c.toNat

/-- The cells of the widest line of a text. -/
def widest (text : List Char) : Nat := ((split isLineBreak text).map cells).foldl max 0

/-- Blanks that take some cells. -/
def gap (count : Nat) : List Char := List.replicate count ' '

/-- A text with blanks after it, so that it takes at least the given cells. -/
def padRight (width : Nat) (text : List Char) : List Char := text ++ gap (width - cells text)

/-- A text with blanks before it, so that it takes at least the given cells. -/
def padLeft (width : Nat) (text : List Char) : List Char := gap (width - cells text) ++ text

/-- A text in the middle of the given cells. What cannot be halved goes to the right. -/
def center (width : Nat) (text : List Char) : List Char :=
  padRight width (gap ((width - cells text) / 2) ++ text)

/-- The cells between two places that a tab leads to. -/
def tabWidth : Nat := 8

/-- The cells from a place to the next one that a tab leads to. -/
def toNextTab (place : Nat) : Nat := (tabWidth - 1) - (place + tabWidth - 1) % tabWidth

end Bindery.Text

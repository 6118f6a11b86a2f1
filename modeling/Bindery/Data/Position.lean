/-!
# Positions in a text

A reader works on what is left of its text, so it knows a place in the text by the number of
characters from there to the end.  `Position` is such a place as messages name it.
-/

namespace Bindery.Data

/-- A place in a text: its line and column, both counted from one, and its offset. -/
structure Position where
  line : Nat
  column : Nat
  offset : Nat
  deriving DecidableEq, Repr

namespace Position

/-- The place before which `offset` characters stand. -/
def ofOffset (text : List Char) (offset : Nat) : Position where
  line := (text.take offset).count '\n' + 1
  column := ((text.take offset).reverse.takeWhile (· ≠ '\n')).length + 1
  offset := offset

/-- The place after which `left` characters remain. -/
def ofLeft (text : List Char) (left : Nat) : Position := ofOffset text (text.length - left)

end Position

end Bindery.Data

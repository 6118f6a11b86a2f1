import Bindery.Data.Rest

/-!
# Lines of a YAML text

Which characters a YAML text may hold, where its lines end, and which marks divide it.
-/

namespace Bindery.Format.Yaml

/-- Whether a character may stand in a YAML text. -/
def isReadable (c : Char) : Bool :=
  c = '\t' || c = '\n' || c = '\r' || c = '\u0085' || (' ' ≤ c && c ≤ '~') ||
    (0xA0 ≤ c.toNat && c.toNat ≤ 0xFFFD) || 0x10000 ≤ c.toNat

/-- A text whose line ends are line feeds, save the two separators that Unicode has for lines
and paragraphs. -/
def unifyBreaks : List Char → List Char
  | [] => []
  | '\r' :: '\n' :: rest => '\n' :: unifyBreaks rest
  | c :: rest => (if c = '\r' || c = '\u0085' then '\n' else c) :: unifyBreaks rest

/-- Whether a character ends a line. -/
def isBreak (c : Char) : Bool := c = '\n' || c = '\u2028' || c = '\u2029'

/-- Whether a character is a space or a tab. -/
def isWhite (c : Char) : Bool := c = ' ' || c = '\t'

/-- Whether a text is at a space or at the end of a line. -/
def atSpace : List Char → Bool
  | [] => true
  | c :: _ => c = ' ' || isBreak c

/-- Whether a text is at a space, a tab or the end of a line. -/
def atGap : List Char → Bool
  | [] => true
  | c :: _ => isWhite c || isBreak c

/-- Whether a text is at a mark that divides documents, given that a line starts there. -/
def atDocumentMark : List Char → Bool
  | '-' :: '-' :: '-' :: rest => atGap rest
  | '.' :: '.' :: '.' :: rest => atGap rest
  | _ => false

/-- What is left after a comment, if there is one. -/
def skipComment : List Char → List Char
  | '#' :: rest => rest.dropWhile (! isBreak ·)
  | text => text

theorem length_skipComment_le (text : List Char) : (skipComment text).length ≤ text.length := by
  unfold skipComment
  split
  · have := Data.length_dropWhile_le (! isBreak ·) ‹List Char›
    simp; omega
  · exact Nat.le_refl _

/-- What is left after the rest of a line that holds nothing more than a comment. -/
def finishLine (text : List Char) : Option (List Char) :=
  match skipComment (text.dropWhile (· = ' ')) with
  | [] => some []
  | c :: rest => if isBreak c then some rest else none

/-- The text of a line break and the breaks of the empty lines after it, as they count in a
scalar whose lines are joined: a break alone is a space. -/
def fold (first : Char) (breaks : List Char) : List Char :=
  (if first ≠ '\n' then [first] else if breaks.isEmpty then [' '] else []) ++ breaks

end Bindery.Format.Yaml

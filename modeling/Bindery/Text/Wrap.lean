import Bindery.Text.Width

/-!
# Lines that fit a width

A line that is too wide for its place goes on below, at one of its words if that is possible, or it
is cut.  A character stays together with the marks and selectors after it.
-/

namespace Bindery.Text

/-! ## Clusters -/

/-- Characters that stand together, and the cells that they take. -/
structure Cluster where
  chars : List Char
  cells : Nat
  deriving DecidableEq, Repr

/-- A cluster with another character, and with the cells that it adds. -/
def Cluster.add (cluster : Cluster) (c : Char) (cells : Nat := 0) : Cluster :=
  ⟨cluster.chars ++ [c], cluster.cells + cells⟩

/-- The clusters at the start of a line, the last one first. -/
structure Clustering where
  clusters : List Cluster := []
  /-- The last character that takes cells, if a selector can still make it wider. -/
  last : Option Char := none
  /-- Whether a joiner puts the next character into the last cluster. -/
  joins : Bool := false
  deriving DecidableEq, Repr

/-- The clusters of a line with one more character. -/
def Clustering.add (line : Clustering) (c : Char) : Clustering :=
  match line.clusters with
  | [] => { clusters := [⟨[c], charCells c⟩], last := if charCells c = 0 then none else some c }
  | cluster :: before =>
    if line.joins then { line with clusters := cluster.add c :: before, joins := false }
    else if c = joiner then { line with clusters := cluster.add c :: before, joins := true }
    else if c = emojiSelector && line.last.any (widened.contains ·.toNat) then
      { clusters := cluster.add c 1 :: before }
    else if charCells c = 0 then { line with clusters := cluster.add c :: before }
    else { clusters := ⟨[c], charCells c⟩ :: line.clusters, last := some c }

/-- The clusters of a line. -/
def clusters (line : List Char) : List Cluster := (line.foldl Clustering.add {}).clusters.reverse

/-! ## Cutting -/

/-- The start of a line that takes the given cells. A cluster that would be cut in two becomes a
blank. -/
def cut : Nat → List Cluster → List Char
  | _, [] => []
  | 0, _ => []
  | room + 1, cluster :: more =>
    if cluster.cells ≤ room + 1 then cluster.chars ++ cut (room + 1 - cluster.cells) more else [' ']

/-- A line that is cut if it takes more cells than the given ones, with or without an ellipsis at
its end. -/
def truncate (width : Nat) (ellipsis : Bool) (line : List Char) : List Char :=
  if cells line ≤ width then line
  else if ellipsis then cut (width - 1) (clusters line) ++ ['…']
  else cut width (clusters line)

/-- A line without blanks at its end, but only without so many that as many characters as there are
cells are left. -/
def trimEnd (width : Nat) (line : List Char) : List Char :=
  line.take (max width (trimRight line).length)

/-! ## Wrapping -/

/-- A line divided before each character that is not blank and follows a blank. -/
def runs : List Char → List (List Char)
  | [] => []
  | c :: rest =>
    match runs rest with
    | [] => [[c]]
    | run :: more =>
      if isBlank c && ! run.head?.any isBlank then [c] :: run :: more else (c :: run) :: more

/-- The words of a line, each with the blanks after it. The blanks before the first word belong to
it. -/
def words (line : List Char) : List (List Char) :=
  match runs line with
  | first :: second :: more =>
    if first.all isBlank then (first ++ second) :: more else first :: second :: more
  | few => few

/-- Clusters on lines of the given cells, after a line that takes some. -/
def chop (width taken : Nat) (line : List Char) : List Cluster → List (List Char)
  | [] => [line]
  | cluster :: more =>
    if taken + cluster.cells ≤ width then
      chop width (taken + cluster.cells) (line ++ cluster.chars) more
    else line :: chop width cluster.cells cluster.chars more

/-- Words on lines of the given cells, after a line that takes some. A word that is too wide for
any line is divided where words are folded, and has a line of its own otherwise. -/
def wrapWords (width : Nat) (folds : Bool) (line : List Char) (taken : Nat) :
    List (List Char) → List (List Char)
  | [] => [line]
  | word :: more =>
    let needed := cells (trimRight word)
    if taken + needed ≤ width then wrapWords width folds (line ++ word) (taken + cells word) more
    else if width < needed && folds then
      let parts := (line :: chop width 0 [] (clusters word)).dropWhile (·.isEmpty)
      let last := parts.getLastD []
      parts.dropLast ++ wrapWords width folds last (cells last) more
    else
      let below := wrapWords width folds word (cells word) more
      if line.isEmpty then below else line :: below

/-- A line on lines of the given cells. -/
def wrap (width : Nat) (folds : Bool) (line : List Char) : List (List Char) :=
  wrapWords width folds [] 0 (words line)

end Bindery.Text

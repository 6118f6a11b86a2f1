import Bindery.Text.Split

/-!
# Paths

A `Path` is the name of a file: a root, if it is absolute, and the names on the way.  Empty
names and single dots are not part of it; double dots are.
-/

namespace Bindery.Files

/-- The name of a file or a directory. The root is empty for a relative path. -/
structure Path where
  root : String
  parts : List String
  deriving DecidableEq, Repr

namespace Path

/-- The root of a path as written: none, one slash, or exactly two slashes. -/
def rootOf (text : List Char) : String :=
  match text.takeWhile (· = '/') with
  | [] => ""
  | ['/', '/'] => "//"
  | _ => "/"

/-- The path that a text names. -/
def parse (text : String) : Path where
  root := rootOf text.toList
  parts := ((Text.split (· = '/') text.toList).map String.ofList).filter fun part =>
    part ≠ "" ∧ part ≠ "."

/-- Whether a path starts at the root. -/
def isAbsolute (path : Path) : Bool := path.root ≠ ""

/-- A path as text. -/
def text (path : Path) : String :=
  if path.root = "" ∧ path.parts = [] then "."
  else path.root ++ "/".intercalate path.parts

/-- A path seen from another; an absolute path does not depend on it. -/
def join (base path : Path) : Path :=
  if path.isAbsolute then path else ⟨base.root, base.parts ++ path.parts⟩

/-- The names that lead to a path, the root among them. Two slashes are the same root as one. -/
def names (path : Path) : List String :=
  if path.isAbsolute then "/" :: path.parts else path.parts

/-- The path that a path lies in. -/
def parent (path : Path) : Path := ⟨path.root, path.parts.dropLast⟩

/-- The last name of a path. -/
def name (path : Path) : String := path.parts.getLast?.getD ""

/-- The name before the last dot and the rest from that dot on. A dot at either end of a name
does not divide it. -/
def splitName (name : String) : String × String :=
  let rest := name.toList.reverse.takeWhile (· ≠ '.')
  let stem := name.toList.take (name.length - rest.length - 1)
  if rest.isEmpty || stem.isEmpty then (name, "")
  else (String.ofList stem, String.ofList ('.' :: rest.reverse))

/-- The last name of a path without its suffix. -/
def stem (path : Path) : String := (splitName path.name).1

/-- The suffix of the last name of a path: its last dot and what follows. -/
def suffix (path : Path) : String := (splitName path.name).2

end Path

end Bindery.Files

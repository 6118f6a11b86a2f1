import Bindery.Code.Literal
import Bindery.Data.Utf8
import Bindery.Files.Path

/-!
# Trees of files

A `Tree` holds the files and directories that a run sees: those below a working directory, those
that it makes elsewhere, and texts that are kept in memory alone.  Reading and writing are
functions of the tree, and what can go wrong with them is an error with the path it concerns.
-/

namespace Bindery.Files

open Bindery.Data

/-- What a file holds: text, or bytes that may be text. -/
inductive Content where
  | text (text : String)
  | bytes (bytes : List UInt8)
  deriving DecidableEq, Repr

/-- A text with every line ended by a line feed. -/
def plainLineEnds : List Char → List Char
  | [] => []
  | '\r' :: '\n' :: rest => '\n' :: plainLineEnds rest
  | '\r' :: rest => '\n' :: plainLineEnds rest
  | c :: rest => c :: plainLineEnds rest

/-- The text of a file. -/
def Content.read : Content → Except Utf8.Error String
  | .text written => .ok (String.ofList (plainLineEnds written.toList))
  | .bytes held => (Utf8.decode held).map fun chars => String.ofList (plainLineEnds chars)

/-- A file or a directory. -/
inductive Node where
  | file (content : Content)
  | directory
  deriving DecidableEq, Repr

/-- What is wrong with a path. -/
inductive Problem where
  | notFound | alreadyExists | notDirectory | isDirectory | nameTooLong
  /-- The path holds a character that ends it for the system. -/
  | holdsNull
  deriving DecidableEq, Repr

/-- The wording of a problem with a path. -/
def Problem.message : Problem → String
  | notFound => "[Errno 2] No such file or directory"
  | alreadyExists => "[Errno 17] File exists"
  | notDirectory => "[Errno 20] Not a directory"
  | isDirectory => "[Errno 21] Is a directory"
  | nameTooLong => "[Errno 36] File name too long"
  | holdsNull => "embedded null byte"

/-- A path that could not be used, and why. -/
structure Error where
  problem : Problem
  path : Path
  deriving DecidableEq, Repr

/-- Whether the system refused a path. A path that it cannot be asked about is not refused by it. -/
def Error.isOfSystem (error : Error) : Bool := error.problem ≠ .holdsNull

/-- What is reported about a path that could not be used. -/
def Error.message (error : Error) : String :=
  if error.isOfSystem then
    error.problem.message ++ ": " ++ Code.Literal.quoted error.path.text
  else error.problem.message

/-- Files and directories, each under the names on the way from the working directory.  The first
names of a place elsewhere are the root, or double dots. -/
structure Tree where
  nodes : List (List String × Node)
  /-- The texts that are kept in memory, each under the names on the way. -/
  memory : List (List String × String) := []
  deriving DecidableEq, Repr

namespace Tree

/-- A working directory with nothing in it. -/
def empty : Tree := { nodes := [] }

/-- Directories that every system has. -/
def systemDirectories : List String := [
  "bin", "boot", "dev", "etc", "home", "lib", "media", "mnt", "opt", "proc", "root", "run", "sbin",
  "srv", "sys", "tmp", "usr", "var"]

/-- Whether a place is the working directory, one that it lies in, or one of the system. -/
def isGiven (place : List String) : Bool :=
  match place with
  | ["/", name] => name ∈ systemDirectories
  | _ => place = ["/"] || place.all (· = "..")

/-- What is at a place. Some directories are always there. -/
def node? (tree : Tree) (place : List String) : Option Node :=
  if isGiven place then some .directory else tree.nodes.lookup place

/-- The tree with something put at a place. -/
def put (tree : Tree) (place : List String) (node : Node) : Tree :=
  if (tree.nodes.lookup place).isSome then
    { tree with
      nodes := tree.nodes.map fun (other, held) =>
        if other = place then (other, node) else (other, held) }
  else { tree with nodes := tree.nodes ++ [(place, node)] }

/-- The place that a place lies in. The root lies in itself. -/
def above (place : List String) : List String :=
  if place = ["/"] then place
  else if place.all (· = "..") then place ++ [".."]
  else place.dropLast

/-- The most bytes of a name. -/
def maxNameBytes : Nat := 255

/-- The bytes that are too many for a path. -/
def maxPathBytes : Nat := 4096

/-- The place that names lead to from a place. Every name but the last leads to a directory. -/
def walk (tree : Tree) (place : List String) : List String → Except Problem (List String)
  | [] => .ok place
  | name :: rest =>
    if name = ".." then tree.walk (above place) rest
    else if maxNameBytes < name.utf8ByteSize then .error .nameTooLong
    else
      let next := place ++ [name]
      match tree.node? next with
      | some .directory => tree.walk next rest
      | some (.file _) => if rest = [] then .ok next else .error .notDirectory
      | none => if rest = [] then .ok next else .error .notFound

/-- The place that a path names. -/
def place (tree : Tree) (path : Path) : Except Problem (List String) :=
  if path.text.contains '\x00' then .error .holdsNull
  else if maxPathBytes ≤ path.text.utf8ByteSize then .error .nameTooLong
  else if path.isAbsolute then tree.walk ["/"] path.parts
  else tree.walk [] path.parts

/-- What a path names. -/
def find? (tree : Tree) (path : Path) : Option Node :=
  match tree.place path with
  | .ok place => tree.node? place
  | .error _ => none

/-- Whether a path names something. Only a name that is too long cannot be looked up. -/
def exists? (tree : Tree) (path : Path) : Except Error Bool :=
  match tree.place path with
  | .ok place => .ok (tree.node? place).isSome
  | .error .nameTooLong => .error ⟨.nameTooLong, path⟩
  | .error _ => .ok false

/-! ## Reading -/

/-- The content of the file that a path names. -/
def content (tree : Tree) (path : Path) : Except Error Content :=
  match tree.place path with
  | .error problem => .error ⟨problem, path⟩
  | .ok place =>
    match tree.node? place with
    | some (.file content) => .ok content
    | some .directory => .error ⟨.isDirectory, path⟩
    | none => .error ⟨.notFound, path⟩

/-- The names in the directory that a path names. -/
def namesIn (tree : Tree) (path : Path) : List String :=
  match tree.place path with
  | .error _ => []
  | .ok place =>
    tree.nodes.filterMap fun (other, _) =>
      if other ≠ [] && other.dropLast = place then other.getLast? else none

/-! ## Writing -/

/-- The tree with one directory made. -/
def makeDirectory (tree : Tree) (path : Path) : Except Error Tree :=
  match tree.place path with
  | .error problem => .error ⟨problem, path⟩
  | .ok place =>
    match tree.node? place with
    | some _ => .error ⟨.alreadyExists, path⟩
    | none => .ok (tree.put place .directory)

/-- The tree with one directory made, unless it is there already. -/
def ensureDirectory (tree : Tree) (path : Path) : Except Error Tree :=
  match tree.makeDirectory path with
  | .ok made => .ok made
  | .error error =>
    if tree.find? path = some .directory then .ok tree else .error error

/-- The tree with the directories made that lead to a relative path, given its names in
reverse. -/
def ensureAll (tree : Tree) (root : String) : List String → Except Error Tree
  | [] => tree.ensureDirectory ⟨root, []⟩
  | name :: before =>
    let path : Path := ⟨root, (name :: before).reverse⟩
    match tree.makeDirectory path with
    | .error ⟨.notFound, _⟩ =>
      match tree.ensureAll root before with
      | .ok made => made.ensureDirectory path
      | .error error => .error error
    | _ => tree.ensureDirectory path

/-- The tree with a directory made and all those that it lies in. -/
def ensureDirectories (tree : Tree) (path : Path) : Except Error Tree :=
  tree.ensureAll path.root path.parts.reverse

/-- The tree with a text written to a file. -/
def write (tree : Tree) (path : Path) (text : String) : Except Error Tree :=
  match tree.place path with
  | .error problem => .error ⟨problem, path⟩
  | .ok place =>
    match tree.node? place with
    | some .directory => .error ⟨.isDirectory, path⟩
    | _ => .ok (tree.put place (.file (.text text)))

/-- Whether a place lies below the working directory. -/
def isInside (place : List String) : Bool := place.head?.all (· ∉ ["/", ".."])

/-- The places of the files below the working directory. -/
def files (tree : Tree) : List (List String) :=
  tree.nodes.filterMap fun (place, node) =>
    match node with
    | .file _ => if isInside place then some place else none
    | .directory => none

end Tree

end Bindery.Files

import Bindery.Run.Session

/-!
# The command line

Reads the working directory, does what the command line asks for, and writes the files that are
new or have changed.
-/

open Bindery Bindery.Files Bindery.Run

namespace Bindery.CommandLine

/-- The content of a file, as text if it is text. -/
def contentOf (bytes : ByteArray) : Content :=
  match String.fromUTF8? bytes with
  | some text => .text text
  | none => .bytes bytes.toList

/-- A tree with what stands below a place of the working directory. What cannot be read is left
out. -/
partial def readBelow (place : List String) (tree : Tree) : IO Tree := do
  let directory := place.foldl (· / ·) (← IO.currentDir)
  (← directory.readDir).foldlM (fun tree entry => do
    let below := place ++ [entry.fileName]
    try
      match (← entry.path.symlinkMetadata).type with
      | .dir => readBelow below (tree.put below .directory)
      | .file => return tree.put below (.file (contentOf (← IO.FS.readBinFile entry.path)))
      | _ => return tree
    catch _ => return tree) tree

/-- Makes what is at a place the way it is in a tree. -/
def writeNode (place : List String) (node : Node) : IO Unit := do
  let path := place.foldl (· / ·) (← IO.currentDir)
  match node with
  | .directory => IO.FS.createDirAll path
  | .file (.text text) => IO.FS.writeFile path text
  | .file (.bytes bytes) => IO.FS.writeBinFile path ⟨bytes.toArray⟩

/-- The cells of a line of the screen, as a variable of the environment gives them. -/
def columnsOf (setting? : Option String) : Nat :=
  match setting? with
  | some digits =>
    if ! digits.isEmpty && digits.toList.all Char.isDigit then Text.decimal digits.toList else 80
  | none => 80

end Bindery.CommandLine

open Bindery.CommandLine in
/-- Does what the words of the command line ask for. -/
def main (line : List String) : IO UInt32 := do
  let around : Surroundings := {
    workingDirectory := .parse (← IO.currentDir).toString
    documents := ← IO.getEnv documentsVariable
    columns := columnsOf (← IO.getEnv "COLUMNS") }
  let before ← readBelow [] .empty
  let (ending, session) := perform around line before
  for (place, node) in session.tree.nodes do
    if before.node? place ≠ some node then writeNode place node
  for printed in session.printed do
    IO.println printed
  match ending with
  | .crashed cause => IO.eprintln cause.message
  | .misused => IO.eprintln "usage: optsgen [-v] generate [-c PATH] | inspect SOURCE | version"
  | _ => pure ()
  return ending.status.toUInt32

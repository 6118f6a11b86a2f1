import Bindery.Files.Tree

/-!
# Destinations

Where output goes: to a path on the disk, or to one in memory.  A text that starts with a word, a
colon and a slash names a store by that word.
-/

namespace Bindery.Files

/-- Where the files at a path are kept. -/
inductive Store where
  | disk | memory
  deriving DecidableEq, Repr

/-- Why a text names no destination. -/
inductive StoreError where
  /-- There is no such store. -/
  | unknown (store : String)
  /-- The store needs something that is not there. -/
  | unavailable (need : String)
  deriving DecidableEq, Repr

/-- What is reported about a text that names no destination. -/
def StoreError.message : StoreError → String
  | unknown store => "Unsupported filesystem: " ++ Code.Literal.quoted store
  | unavailable need => need

/-- Stores that are known and not there, with what they need. -/
def unavailableStores : List (String × String) := [
  ("s3", "Install s3fs to access S3"),
  ("s3a", "Install s3fs to access S3"),
  ("gs", "Please install gcsfs to access Google Storage"),
  ("gcs", "Please install gcsfs to access Google Storage"),
  ("az", "Install adlfs to access Azure Datalake Gen2 and Azure Blob Storage"),
  ("abfs", "Install adlfs to access Azure Datalake Gen2 and Azure Blob Storage"),
  ("abfss", "Install adlfs to access Azure Datalake Gen2 and Azure Blob Storage"),
  ("adl", "Install adlfs to access Azure Datalake Gen1"),
  ("hdfs", "pyarrow and local java libraries required for HDFS"),
  ("hf", "Install huggingface_hub to access HfFileSystem"),
  ("http", "HTTPFileSystem requires \"requests\" and \"aiohttp\" to be installed"),
  ("https", "HTTPFileSystem requires \"requests\" and \"aiohttp\" to be installed"),
  ("sftp", "SFTPFileSystem requires \"paramiko\" to be installed"),
  ("ssh", "SFTPFileSystem requires \"paramiko\" to be installed"),
  ("smb", "SMB requires \"smbprotocol\" or \"smbprotocol[kerberos]\" installed"),
  ("github", "Install the requests package to use the github FS")]

/-- A path in a store. -/
structure Destination where
  store : Store
  path : Path
  deriving DecidableEq, Repr

namespace Destination

/-- Whether a character can stand in the name of a store. -/
def isStoreChar (c : Char) : Bool := c.isAlphanum || c = '+'

/-- The name of the store at the start of a text, and the path after its colon. A store has a name
of two characters or more, the first of which is a letter. -/
def store? (text : String) : Option (String × String) :=
  let name := text.toList.takeWhile isStoreChar
  match text.toList.dropWhile isStoreChar with
  | ':' :: mark :: path =>
    if name.head?.any Char.isAlpha && 2 ≤ name.length && (mark = '/' || mark = ':') then
      some (String.ofList name, String.ofList (mark :: path))
    else none
  | _ => none

/-- The destination that a text names. -/
def parse (text : String) : Except StoreError Destination :=
  match store? text with
  | none => .ok ⟨.disk, .parse text⟩
  | some (store, path) =>
    if store = "memory" then .ok ⟨.memory, ⟨"/", (Path.parse path).parts⟩⟩
    else match unavailableStores.lookup store with
      | some need => .error (.unavailable need)
      | none => .error (.unknown store)

/-- A destination as text. -/
def text (destination : Destination) : String :=
  match destination.store with
  | .disk => destination.path.text
  | .memory => "memory:/" ++ destination.path.text

/-- The destination of a path that is seen from another one. -/
def join (base : Destination) (path : Path) : Destination :=
  { base with path := base.path.join path }

/-- The destination that a destination lies in. -/
def parent (destination : Destination) : Destination :=
  { destination with path := destination.path.parent }

end Destination

namespace Tree

/-- The tree with a directory made, and all those that it lies in. Memory needs none. -/
def prepare (tree : Tree) (destination : Destination) : Except Error Tree :=
  match destination.store with
  | .disk => tree.ensureDirectories destination.path
  | .memory => .ok tree

/-- The tree with a text written to a destination. -/
def store (tree : Tree) (destination : Destination) (text : String) : Except Error Tree :=
  match destination.store with
  | .disk => tree.write destination.path text
  | .memory =>
    let others := tree.memory.filter (·.1 ≠ destination.path.parts)
    .ok { tree with memory := others ++ [(destination.path.parts, text)] }

/-- The text at a destination. -/
def text? (tree : Tree) (destination : Destination) : Option String :=
  match destination.store with
  | .disk => (tree.content destination.path).toOption.bind (·.read.toOption)
  | .memory => tree.memory.lookup destination.path.parts

end Tree

end Bindery.Files

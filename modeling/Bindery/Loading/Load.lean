import Bindery.Api.Decode
import Bindery.Fault
import Bindery.Files.Tree
import Bindery.Format.Json
import Bindery.Format.Yaml
import Bindery.Loading.Address
import Bindery.Loading.Response
import Bindery.Text.Case

/-!
# Loading API descriptions

A description is read from a file as YAML or as JSON, by the suffix of the file's name.  What
cannot be read, parsed or accepted is a fault of the source; only bytes that are no text, and
numbers and dates that have no value, are errors of their own.
-/

namespace Bindery.Loading

open Bindery.Api Bindery.Data Bindery.Files

/-- Why a description could not be loaded. -/
inductive LoadError where
  | fault (fault : Fault)
  | undecodable (cause : Utf8.Error)
  | unrepresentable (flaw : Format.Unrepresentable)
  | badAddress (flaw : Address.Flaw)
  /-- The name of a host cannot be read. -/
  | unreadableHost (flaw : HostLabel.Flaw)
  /-- A file cannot even be looked up. -/
  | unreachable (error : Files.Error)
  | headerNotAscii (flaw : Response.NotAscii)
  | refusedCharset (cause : Format.Charset.Refusal)
  deriving DecidableEq, Repr

/-- What is reported about a description that could not be loaded. -/
def LoadError.message : LoadError → String
  | .fault reported => reported.message
  | .undecodable cause => cause.message
  | .unrepresentable flaw => flaw.message
  | .badAddress flaw => flaw.message
  | .unreadableHost flaw => flaw.message
  | .unreachable error => error.message
  | .headerNotAscii flaw => flaw.message
  | .refusedCharset cause => cause.message

/-- The formats of descriptions. -/
inductive DataFormat where
  | json | yaml
  deriving DecidableEq, Repr

/-- The format of a file, by the suffix of its name. -/
def DataFormat.ofSuffix (suffix : String) : DataFormat :=
  if Text.lower suffix ∈ [".yaml", ".yml"] then .yaml else .json

/-- The fault of a source that holds half of a surrogate pair alone. -/
def notUnicode (source : String) : Fault :=
  .invalidDocument source [Issue.message ⟨[], .notUnicode⟩]

/-- The data that a text holds. -/
def parse (source : String) (format : DataFormat) (text : String) : Except LoadError Value :=
  match format with
  | .json =>
    (Format.Json.read text).mapError fun
      | .flaw kind position =>
        .fault (.load source
          (some ⟨"JSONDecodeError", some (Format.Json.Error.flaw kind position).message⟩))
      | .unrepresentable cause => .unrepresentable cause
      | .halfPair => .fault (notUnicode source)
  | .yaml =>
    (Format.Yaml.read text).mapError fun
      | .malformed => .fault (.load source (some ⟨"YAMLError", none⟩))
      | .unrepresentable cause => .unrepresentable cause
      | .halfPair => .fault (notUnicode source)

/-- The description that data holds. -/
def accept (source : String) (content : Value) : Except LoadError Document :=
  match Document.read content with
  | .valid document => .ok document
  | .invalid issues => .error (.fault (.invalidDocument source (issues.map (·.message))))

/-- Where files are looked for: the working directory as messages show it, and a base below it
that relative paths start from. -/
structure Base where
  workingDirectory : Path
  below : Option Path := none
  deriving Repr

namespace Base

/-- The path of a file in the tree of the working directory. -/
def inTree (base : Base) (file : Path) : Path := (base.below.getD ⟨"", []⟩).join file

/-- The path of a file as messages show it. -/
def shown (base : Base) (file : Path) : Path :=
  (base.below.getD base.workingDirectory).join file

end Base

/-- The cause of a fault that a path is. -/
def causeOfFile (error : Files.Error) : Cause where
  kind :=
    match error.problem with
    | .notFound => "FileNotFoundError"
    | .alreadyExists => "FileExistsError"
    | .notDirectory => "NotADirectoryError"
    | .isDirectory => "IsADirectoryError"
    | .nameTooLong => "OSError"
    | .holdsNull => "ValueError"
  text := some error.message

/-- The text of a file that holds a description. -/
def readSource (tree : Tree) (base : Base) (source : String) : Except LoadError String := do
  let file := base.inTree (Path.parse source)
  let shown := base.shown (Path.parse source)
  if ← (tree.exists? file).mapError fun error => .unreachable { error with path := shown } then
    match tree.content file with
    | .ok content => content.read.mapError .undecodable
    | .error error =>
      throw (.fault (.load source (some (causeOfFile { error with path := shown }))))
  else
    throw (.fault (.load source
      (some ⟨"FileNotFoundError", some ("File not found: " ++ shown.text)⟩)))

/-- The description in a file. -/
def loadFile (tree : Tree) (base : Base) (source : String) : Except LoadError Document := do
  let text ← readSource tree base source
  let content ← parse source (.ofSuffix (Path.parse source).suffix) text
  accept source content

end Bindery.Loading

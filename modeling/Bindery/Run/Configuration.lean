import Bindery.Code.Soundness
import Bindery.Format.Toml
import Bindery.Format.Yaml
import Bindery.Loading.Source
import Bindery.Run.Settings
import Bindery.Run.Sources

/-!
# Configurations

A configuration lists the clients that a run generates.  It is read from a file that is named, or
else from the first of the usual files in the working directory; a variable of the environment
can give the list where a configuration does not.
-/

namespace Bindery.Run

open Bindery.Data Bindery.Files

/-- What surrounds a run: the working directory as messages show it, the web, what the environment
gives for the list of clients, the compiler that is asked about code, and the cells of a line of the
screen. -/
structure Surroundings where
  workingDirectory : Path
  web : Loading.Web := fun _ => .noConnection "no connection"
  documents : Option String := none
  compiler : Code.Compiler := .strict
  columns : Nat := 80

/-- The variables of the environment. -/
def Surroundings.variables (around : Surroundings) : Format.Variables.Values :=
  around.documents.toList.map fun text => (documentsVariable, some text)

/-- Why there is no configuration. -/
inductive ConfigurationError where
  /-- No file holds one. -/
  | absent
  /-- A file cannot be read. -/
  | unreadable (error : Files.Error)
  /-- A file holds no text. -/
  | undecodable (error : Utf8.Error)
  /-- A file is no YAML. -/
  | malformedYaml
  /-- A file is no TOML. -/
  | malformedToml (error : Format.Toml.Error)
  /-- A scalar in a file has no value. -/
  | unrepresentable (flaw : Format.Unrepresentable)
  /-- What holds the settings of tools is no table. -/
  | notTable (value : Value)
  /-- The name of a setting is no text. -/
  | keyNotText
  /-- What is said about how settings are looked up cannot be used. -/
  | misuse (misuse : Lookup.Misuse)
  /-- The settings are not as they should be. -/
  | invalid (issues : List Issue)
  deriving Repr

/-- What is reported when settings are looked up in something that is no table. -/
def notTableMessage : Value → String
  | .text _ => "string indices must be integers, not 'str'"
  | .list _ | .set _ => "list indices must be integers or slices, not str"
  | .bool _ => "argument of type 'bool' is not iterable"
  | .int _ => "argument of type 'int' is not iterable"
  | .real _ => "argument of type 'float' is not iterable"
  | .clock _ => "argument of type 'datetime.time' is not iterable"
  | .time ⟨_, _, _, none⟩ => "argument of type 'datetime.date' is not iterable"
  | .time ⟨_, _, _, some _⟩ => "argument of type 'datetime.datetime' is not iterable"
  | _ => "argument of type 'NoneType' is not iterable"

/-- What is reported about a configuration that is missing or wrong. -/
def ConfigurationError.message : ConfigurationError → String
  | absent => "config not found"
  | unreadable error => error.message
  | undecodable error => error.message
  | malformedYaml => ""
  | malformedToml error => error.message
  | unrepresentable flaw => flaw.message
  | notTable value => notTableMessage value
  | keyNotText => "keywords must be strings"
  | misuse cause => cause.message
  | invalid issues => Issue.summary issues

/-- The error that is made of settings that are not found. -/
def ConfigurationError.ofLookup : Lookup.Error → ConfigurationError
  | .misuse cause => .misuse cause
  | .tooDeep flaw => .unrepresentable flaw
  | .notUnicode => .invalid [⟨[], .notUnicode⟩]
  | error => .invalid [⟨[], .refused error.message⟩]

namespace Configuration

/-- The key of the list of clients. -/
def documentsKey : Key := .plain Lookup.documentsName

/-- The settings with what is found for the list where they have none. -/
def complete (around : Surroundings) (tree : Tree) (entries : Lookup.Entries) :
    Except Lookup.Error Lookup.Entries := do
  match ← Lookup.read entries with
  | none => return []
  | some lookup =>
    let found ← lookup.find tree around.variables Lookup.documentsName
    return Value.insertAll found (Lookup.settings entries)

/-- Reads the settings of the clients of a configuration. Nothing else may be in it. -/
def read (around : Surroundings) (tree : Tree) (content : Value) :
    Except ConfigurationError (List Settings) :=
  match content.entries? with
  | some entries =>
    if entries.all fun (key, _) => key matches .text _ then
      match complete around tree entries with
      | .error error => .error (.ofLookup error)
      | .ok completed =>
        let checked :=
          documentsKey.required completed (Checked.list Settings.read) <*
            Key.nothingElse [documentsKey] completed
        checked.toExcept.mapError .invalid
    else .error .keyNotText
  | none => .error (.invalid [⟨[], .notModel "CodegenConfig"⟩])

/-- The text of a file, which messages show under another path. -/
def textOf (tree : Tree) (file shown : Path) : Except ConfigurationError String :=
  match tree.content file with
  | .error error => .error (.unreadable { error with path := shown })
  | .ok content => content.read.mapError .undecodable

/-- The configuration in a YAML file. -/
def ofYaml (around : Surroundings) (tree : Tree) (file shown : Path) :
    Except ConfigurationError (List Settings) := do
  let text ← textOf tree file shown
  let content ←
    match Format.Yaml.read text with
    | .ok content => pure content
    | .error .malformed => throw .malformedYaml
    | .error (.unrepresentable flaw) => throw (.unrepresentable flaw)
    | .error .halfPair => throw (.invalid [⟨[], .notUnicode⟩])
  read around tree content

/-- The settings of this tool among those of all tools. -/
def ownSettings (tools : Value) : Except ConfigurationError (Option Value) :=
  let name := "optsgen"
  match tools with
  | .map entries => .ok (Value.find? entries name)
  | .list items =>
    if items.any (Value.sameKey (.text name)) then .error (.notTable tools) else .ok none
  | .text text =>
    if Code.Literal.occursIn name.toList text.toList then .error (.notTable tools) else .ok none
  | _ => .error (.notTable tools)

/-- The configuration among the settings of a project, if it is there. -/
def ofProject (around : Surroundings) (tree : Tree) (file shown : Path) :
    Except ConfigurationError (List Settings) := do
  let text ← textOf tree file shown
  let project ←
    match Format.Toml.read text with
    | .ok project => pure project
    | .error (.unrepresentable flaw) => throw (.unrepresentable flaw)
    | .error error => throw (.malformedToml error)
  match ← ownSettings ((Value.find? project "tool").getD (.map [])) with
  | some content => read around tree content
  | none => throw .absent

/-- The configuration of a run: in the file that is named, or in the first of the usual files. -/
def find (around : Surroundings) (tree : Tree) (named : Option String) :
    Except ConfigurationError (List Settings) :=
  let usual (name : String) : Option (Path × Path) :=
    let file := Path.parse name
    if (tree.find? file).isSome then some (file, around.workingDirectory.join file) else none
  match Text.filled named, usual "optsgen.yaml", usual "optsgen.yml", usual "pyproject.toml" with
  | some path, _, _, _ => ofYaml around tree (.parse path) (.parse path)
  | none, some (file, shown), _, _ => ofYaml around tree file shown
  | none, none, some (file, shown), _ => ofYaml around tree file shown
  | none, none, none, some (file, shown) => ofProject around tree file shown
  | none, none, none, none => .error .absent

end Configuration

end Bindery.Run

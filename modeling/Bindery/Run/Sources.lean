import Bindery.Files.Tree
import Bindery.Format.Json
import Bindery.Format.Variables
import Bindery.Run.Lookup

/-!
# Sources of settings

What the environment, files of variables and directories of secrets give for a setting.  Each of
them gives way to those before it and to the configuration itself.
-/

namespace Bindery.Run.Lookup

open Bindery.Data Bindery.Files Bindery.Format

/-- Settings by their names. -/
abbrev Entries := List (Value × Value)

/-- The setting that is looked up. -/
def documentsName : String := "documents"

/-- The name of the variable that gives a setting, as it is compared. -/
def nameOf (lookup : Lookup) (setting : String) : String :=
  lookup.folded (lookup.start ++ setting)

/-- Variables with their names as they are compared. -/
def comparable (lookup : Lookup) (values : Variables.Values) : Variables.Values :=
  values.foldl (fun held (name, content) =>
    if lookup.ignoresEmpty && content = some "" then held
    else Variables.assign held (lookup.folded name) content) []

/-- What a text gives for a setting, if it gives anything. The text is JSON, and null gives
nothing. -/
def parse (origin : Origin) (setting text : String) : Except Error Entries :=
  match Json.read text with
  | .ok .null => .ok []
  | .ok value => .ok [(.text setting, value)]
  | .error (.unrepresentable (.hugeInteger _)) | .error (.flaw ..) =>
    .error (.malformed setting origin)
  | .error (.unrepresentable flaw) => .error (.tooDeep flaw)
  | .error .halfPair => .error .notUnicode

/-- What variables give for a setting. -/
def ofVariables (lookup : Lookup) (origin : Origin) (setting : String)
    (values : Variables.Values) : Except Error Entries :=
  match values.lookup (lookup.nameOf setting) with
  | some (some text) =>
    if lookup.nothing = some text then .ok [(.text setting, .null)] else parse origin setting text
  | _ => .ok []

/-- The variables in files that name no setting. Their names are kept as those of settings. -/
def others (lookup : Lookup) (setting : String) (values : Variables.Values) : Entries :=
  values.filterMap fun (name, content) =>
    match content with
    | some text =>
      let isUsed := name = setting || name.startsWith (lookup.nameOf setting)
      if text.isEmpty || isUsed then none else some (.text name, .text text)
    | none => none

/-- The variables in the files that there are. -/
def variablesIn (tree : Tree) (around : Variables.Values) (files : List Path) :
    Except Error Variables.Values :=
  files.foldlM (fun held file =>
    match tree.content file with
    | .error _ => .ok held
    | .ok content => do
      let text ← content.read.mapError .undecodable
      return (Variables.read around text).foldl (fun held (name, content) =>
        Variables.assign held name content) held) []

/-- The secret of a name in directories, of which the last one that has it counts. -/
def secretIn (lookup : Lookup) (tree : Tree) (name : String) (directories : List Path) :
    Except Error (Option String) := do
  let there := directories.filter fun directory => (tree.find? directory).isSome
  if there.any fun directory => tree.find? directory ≠ some .directory then throw .notDirectory
  let files := there.reverse.filterMap fun directory =>
    ((tree.namesIn directory).find? fun other => lookup.folded other = name).map fun found =>
      directory.join ⟨"", [found]⟩
  match files.findSome? fun file => (tree.content file).toOption with
  | some content =>
    let text ← content.read.mapError .undecodable
    return some (String.ofList (Text.strip text.toList))
  | none => return none

/-- What is found for a setting, given the variables of the environment. -/
def find (lookup : Lookup) (tree : Tree) (around : Variables.Values) (setting : String) :
    Except Error Entries := do
  let inFiles := lookup.comparable (← variablesIn tree around lookup.files)
  let first ← lookup.ofVariables .environment setting (lookup.comparable around)
  let second ← lookup.ofVariables .file setting inFiles
  let third ←
    match ← lookup.secretIn tree (lookup.nameOf setting) lookup.secrets with
    | some "" => pure [(.text setting, .text "")]
    | some text => parse .secret setting text
    | none => pure []
  let files := second ++ lookup.others setting inFiles
  return Value.insertAll (Value.insertAll third files) first

end Bindery.Run.Lookup

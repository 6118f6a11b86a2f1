import Bindery.Data.Checked
import Bindery.Data.Utf8
import Bindery.Data.Value
import Bindery.Files.Path
import Bindery.Format.Unrepresentable
import Bindery.Text.Case

/-!
# Where settings are looked up

Settings that a configuration does not give are looked up in variables of the environment, in
files of variables and in directories of secrets.  A configuration can say how, under keys of
their own, and these are no settings.
-/

namespace Bindery.Run

open Bindery.Data Bindery.Files

/-- What the names of variables start with where nothing else is said. -/
def variableStart : String := "OPTSGEN_"

/-- The variable that gives the documents where nothing else is said. -/
def documentsVariable : String := variableStart ++ "DOCUMENTS"

/-- How settings are looked up. -/
structure Lookup where
  /-- Names of variables are told apart by their case. -/
  isExact : Bool := false
  /-- What the names of variables start with. -/
  start : String := variableStart
  /-- Variables without text count as absent. -/
  ignoresEmpty : Bool := false
  /-- The text of a variable that gives nothing. -/
  nothing : Option String := none
  files : List Path := []
  secrets : List Path := []
  deriving Repr

namespace Lookup

/-! ## Keys -/

/-- The key that no configuration can give, since it stands for the configuration itself. -/
def ownKey : String := "__pydantic_self__"

/-- The keys about how settings are looked up. -/
def keys : List String := [
  "_case_sensitive", "_nested_model_default_partial_update", "_env_prefix", "_env_prefix_target",
  "_env_file", "_env_file_encoding", "_env_ignore_empty", "_env_nested_delimiter",
  "_env_nested_max_split", "_env_parse_none_str", "_env_parse_enums", "_cli_prog_name",
  "_cli_parse_args", "_cli_settings_source", "_cli_parse_none_str", "_cli_hide_none_type",
  "_cli_avoid_json", "_cli_enforce_required", "_cli_use_class_docs_for_groups",
  "_cli_exit_on_error", "_cli_prefix", "_cli_flag_prefix_char", "_cli_implicit_flags",
  "_cli_ignore_unknown_args", "_cli_kebab_case", "_cli_shortcuts", "_secrets_dir",
  "_build_sources"]

/-- What a configuration holds that is not about how settings are looked up. -/
def settings (entries : List (Value × Value)) : List (Value × Value) :=
  entries.filter fun (key, _) =>
    match key with
    | .text name => name ∉ keys
    | _ => true

/-! ## Errors -/

/-- A value that cannot be used as its key asks. The kind of the value is told. -/
inductive Misuse where
  /-- The key of the configuration itself is given. -/
  | ownKey
  | notPair (kind : String)
  | notCallable (kind : String)
  | notNumber (kind : String)
  | noLength (kind : String)
  | notJoined (kind : String)
  | notIterable (kind : String)
  | notPath (kind : String)
  deriving DecidableEq, Repr

/-- What is reported about a value that cannot be used. -/
def Misuse.message : Misuse → String
  | ownKey => "BaseSettings.__init__() got multiple values for argument '" ++ Lookup.ownKey ++ "'"
  | notPair kind => "cannot unpack non-iterable " ++ kind ++ " object"
  | notCallable kind => "'" ++ kind ++ "' object is not callable"
  | notNumber kind => "unsupported operand type(s) for -: '" ++ kind ++ "' and 'int'"
  | noLength kind => "object of type '" ++ kind ++ "' has no len()"
  | notJoined "list" => "can only concatenate list (not \"str\") to list"
  | notJoined kind => "unsupported operand type(s) for +: '" ++ kind ++ "' and 'str'"
  | notIterable kind => "'" ++ kind ++ "' object is not iterable"
  | notPath kind => "expected str, bytes or os.PathLike object, not " ++ kind

/-- Where a setting comes from. -/
inductive Origin where
  | environment | file | secret
  deriving DecidableEq, Repr

/-- What messages call an origin. -/
def Origin.label : Origin → String
  | environment => "EnvSettingsSource"
  | file => "DotEnvSettingsSource"
  | secret => "SecretsSettingsSource"

/-- Why settings are not found. -/
inductive Error where
  | misuse (misuse : Misuse)
  /-- There are fewer than two sources. -/
  | tooFewSources (count : Nat)
  /-- There are more than two sources. -/
  | tooManySources
  /-- The arguments are no list. -/
  | notArguments (kind : String)
  /-- What should be a directory of secrets is a file. -/
  | notDirectory
  | undecodable (cause : Utf8.Error)
  /-- What is found for a setting is no JSON. -/
  | malformed (setting : String) (origin : Origin)
  /-- What is found for a setting lies too deep in each other. -/
  | tooDeep (flaw : Format.Unrepresentable)
  /-- What is found for a setting holds half of a surrogate pair alone. -/
  | notUnicode
  deriving DecidableEq, Repr

/-- What is reported about settings that are not found. -/
def Error.message : Error → String
  | misuse cause => cause.message
  | tooFewSources count =>
    "not enough values to unpack (expected 2, got " ++ toString count ++ ")"
  | tooManySources => "too many values to unpack (expected 2)"
  | notArguments kind =>
    "cli_parse_args must be a list or tuple of strings, received <class '" ++ kind ++ "'>"
  | notDirectory => "secrets_dir must reference a directory, not a file"
  | undecodable cause => cause.message
  | malformed setting origin =>
    "error parsing value for field \"" ++ setting ++ "\" from source \"" ++ origin.label ++ "\""
  | tooDeep flaw => flaw.message
  | notUnicode => Problem.notUnicode.message

/-! ## Reading -/

/-- The kind of a value, as messages name it. -/
def kindOf (value : Value) : String :=
  match value.unroll with
  | .null | .loop .. | .again _ => "NoneType"
  | .bool _ => "bool"
  | .int _ => "int"
  | .real _ => "float"
  | .text _ => "str"
  | .bytes _ => "bytes"
  | .time ⟨_, _, _, none⟩ => "datetime.date"
  | .time ⟨_, _, _, some _⟩ => "datetime.datetime"
  | .clock _ => "datetime.time"
  | .list _ => "list"
  | .set _ => "set"
  | .map _ => "dict"

/-- Whether a value counts as true. -/
def isTrue (value : Value) : Bool :=
  match value.unroll with
  | .null => false
  | .bool value => value
  | .int value => value ≠ 0
  | .real value => value.toInt? ≠ some 0
  | .text value => ! value.isEmpty
  | .bytes value => ! value.isEmpty
  | .list items | .set items => ! items.isEmpty
  | .map entries => ! entries.isEmpty
  | _ => true

/-- A value that is given and not null. -/
def given? (entries : List (Value × Value)) (key : String) : Option Value :=
  (Value.find? entries key).filter fun value => ! (value matches .null)

/-- What a value gives one after the other, if it does. -/
def parts? (value : Value) : Option (List Value) :=
  match value.unroll with
  | .text text => some (text.toList.map fun c => .text (String.singleton c))
  | .bytes bytes => some (bytes.map fun byte => .int byte.toNat)
  | .list items | .set items => some items
  | .map entries => some (entries.map (·.1))
  | _ => none

/-- Checks that sources which are given are none. -/
def checkSources (value : Value) : Except Error Unit :=
  match parts? value with
  | none => .error (.misuse (.notPair (kindOf value)))
  | some [sources, _] =>
    if ! isTrue sources then .ok ()
    else
      match parts? sources with
      | some (first :: _) => .error (.misuse (.notCallable (kindOf first)))
      | _ => .error (.misuse (.notIterable (kindOf sources)))
  | some (_ :: _ :: _) => .error .tooManySources
  | some parts => .error (.tooFewSources parts.length)

/-- What the names of variables start with. -/
def readStart (value : Value) : Except Error String :=
  match value.unroll with
  | .text text => .ok text
  | .list _ | .set _ | .map _ | .bytes _ => .error (.misuse (.notJoined (kindOf value)))
  | _ => .error (.misuse (.noLength (kindOf value)))

/-- Checks that a number can be told from a value. -/
def checkNumber (value : Value) : Except Error Unit :=
  match value.unroll with
  | .bool _ | .int _ | .real _ => .ok ()
  | _ => if isTrue value then .error (.misuse (.notNumber (kindOf value))) else .ok ()

/-- A path or several. -/
def readPaths (value : Value) : Except Error (List Path) :=
  let path (item : Value) : Except Error Path :=
    match item with
    | .text text => .ok (.parse text)
    | _ => .error (.misuse (.notPath (((kindOf item).splitOn ".").getLastD "")))
  match value.unroll with
  | .text text => .ok [.parse text]
  | .list items | .set items => items.mapM path
  | .map entries => entries.mapM (path ·.1)
  | _ => .error (.misuse (.notIterable (kindOf value)))

/-- Checks the arguments of a command that give settings. -/
def checkArguments (value : Value) : Except Error Unit :=
  match value.unroll with
  | .bool _ | .list _ => .ok ()
  | _ => if value.sameKey (.bool false) then .ok () else .error (.notArguments (kindOf value))

/-- How a configuration says that settings are looked up. There is nowhere to look where sources
are given. -/
def read (entries : List (Value × Value)) : Except Error (Option Lookup) := do
  if (Value.find? entries ownKey).isSome then throw (.misuse .ownKey)
  let given (key : String) := given? entries key
  let isGiven (key : String) : Bool := (given key).any isTrue
  match given "_build_sources" with
  | some value =>
    checkSources value
    return none
  | none =>
    (given "_env_nested_max_split").forM checkNumber
    let start ← (given "_env_prefix").mapM readStart
    let files ← (given "_env_file").mapM readPaths
    (given "_cli_parse_args").forM checkArguments
    let secrets ← (given "_secrets_dir").mapM readPaths
    return some {
      isExact := isGiven "_case_sensitive"
      start := start.getD variableStart
      ignoresEmpty := isGiven "_env_ignore_empty"
      nothing :=
        match given "_env_parse_none_str" with
        | some (.text text) => some text
        | _ => none
      files := files.getD []
      secrets := secrets.getD [] }

/-- A name of a variable as it is compared. -/
def folded (lookup : Lookup) (name : String) : String :=
  if lookup.isExact then name else Text.lower name

end Lookup

end Bindery.Run

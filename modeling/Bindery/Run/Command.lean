import Bindery.Plan.OperationPlan

/-!
# Commands

What the tool can be asked to do, and how the words of a command line are read.  Options can
stand between the arguments of a command, in their long form with the value after an equals sign
or in their short form with the value right behind the letter.
-/

namespace Bindery.Run

open Bindery.Plan

/-! ## Options on a command line -/

/-- An option of a command line. -/
structure Switch where
  long : String
  short : Option Char := none
  takesValue : Bool := false
  deriving DecidableEq, Repr

/-- What is read off the words of a command line: the options in their order, each by its long
name, and the other words. -/
structure Arguments where
  options : List (String × String)
  words : List String
  deriving DecidableEq, Repr

/-- Options that one word gives, and the option that takes the next word as its value. -/
structure WordOptions where
  given : List (String × String)
  awaiting : Option String
  deriving DecidableEq, Repr

/-- The option in a word of the form `--name` or `--name=value`. -/
def longOption? (switches : List Switch) (word : String) : Option WordOptions :=
  let name := String.ofList (word.toList.takeWhile (· ≠ '='))
  match switches.find? (·.long = name), word.toList.dropWhile (· ≠ '=') with
  | none, _ => none
  | some switch, [] =>
    some (if switch.takesValue then ⟨[], some name⟩ else ⟨[(name, "")], none⟩)
  | some switch, _ :: value =>
    if switch.takesValue then some ⟨[(name, String.ofList value)], none⟩ else none

/-- The options in the letters after a dash. What follows the letter of an option that takes a
value is the value. -/
def shortOptions? (switches : List Switch) : List Char → Option WordOptions
  | [] => some ⟨[], none⟩
  | letter :: rest =>
    match switches.find? (·.short = some letter) with
    | none => none
    | some switch =>
      if switch.takesValue then
        some (if rest.isEmpty then ⟨[], some switch.long⟩
          else ⟨[(switch.long, String.ofList rest)], none⟩)
      else
        (shortOptions? switches rest).map fun others =>
          { others with given := (switch.long, "") :: others.given }

/-- The options in a word that starts with a dash. -/
def wordOptions? (switches : List Switch) (word : String) : Option WordOptions :=
  if word.startsWith "--" then longOption? switches word
  else shortOptions? switches (word.toList.drop 1)

/-- Reads the words of a command line. Two dashes end the options, and unless options are mixed
with other words, so does the first other word. -/
def Arguments.read (switches : List Switch) (mixed : Bool) : List String → Option Arguments
  | [] => some ⟨[], []⟩
  | word :: rest =>
    if word = "--" then some ⟨[], rest⟩
    else if word.startsWith "-" && word ≠ "-" then
      match wordOptions? switches word, rest with
      | none, _ | some ⟨_, some _⟩, [] => none
      | some ⟨given, none⟩, rest =>
        (read switches mixed rest).map fun found =>
          { found with options := given ++ found.options }
      | some ⟨given, some name⟩, value :: rest =>
        (read switches mixed rest).map fun found =>
          { found with options := given ++ (name, value) :: found.options }
    else if mixed then
      (read switches mixed rest).map fun found => { found with words := word :: found.words }
    else some ⟨[], word :: rest⟩

/-- The value of an option; the last one counts. -/
def Arguments.value? (arguments : Arguments) (name : String) : Option String :=
  arguments.options.reverse.lookup name

/-! ## Commands -/

/-- What the tool is asked to do. -/
inductive Command where
  /-- Generate the clients of a configuration. -/
  | generate (configuration : Option String)
  /-- Show the plan of a client. -/
  | inspect (source : String) (variant : Variant)
  /-- Show the version. -/
  | version
  deriving DecidableEq, Repr

namespace Command

/-- The options that stand before the command. -/
def general : List Switch := [{ long := "--verbose", short := some 'v' }]

/-- The option that names a configuration. -/
def configuration : Switch := { long := "--config", short := some 'c', takesValue := true }

/-- The option that chooses a variant. -/
def variant : Switch := { long := "--variant", takesValue := true }

/-- The variant that is chosen. -/
def variantOf (arguments : Arguments) : Option Variant :=
  match arguments.value? variant.long with
  | none => some .options
  | some label => Variant.all.find? (·.label = label)

/-- The command that words name, without the general options. -/
def ofWords : List String → Option Command
  | "generate" :: rest => do
    let arguments ← Arguments.read [configuration] true rest
    if arguments.words = [] then some (.generate (arguments.value? configuration.long)) else none
  | "inspect" :: rest => do
    let arguments ← Arguments.read [variant] true rest
    match arguments.words with
    | [source] => (variantOf arguments).map (.inspect source)
    | _ => none
  | "version" :: rest => do
    let arguments ← Arguments.read [] true rest
    if arguments.words = [] then some .version else none
  | _ => none

/-- The command on a command line, if it is one. -/
def read (line : List String) : Option Command := do
  let arguments ← Arguments.read general false line
  ofWords arguments.words

end Command

end Bindery.Run

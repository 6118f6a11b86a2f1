import Bindery.Run.Command
import Bindery.Run.Generate
import Bindery.Run.Inspection

/-!
# Sessions

A session is what a command does to the working directory and what it prints.  A command ends
well, or with a failure that it reports, or it breaks off.
-/

namespace Bindery.Run

open Bindery.Api Bindery.Display Bindery.Files Bindery.Loading Bindery.Plan Bindery.Typing

/-- Why a command broke off. -/
inductive Crash where
  | configuration (error : ConfigurationError)
  | run (error : Error)
  | markup (error : Markup.Error)
  deriving Repr

/-- What is reported about a command that broke off. -/
def Crash.message : Crash → String
  | configuration error => error.message
  | run error => error.message
  | markup error => error.message

/-- How a command ends. -/
inductive Ending where
  | done
  | failed
  | crashed (cause : Crash)
  /-- There was no command. -/
  | misused
  deriving Repr

/-- The exit status of a command. -/
def Ending.status : Ending → Nat
  | done => 0
  | failed | crashed _ => 1
  | misused => 2

/-- The working directory and the lines that were printed. -/
structure Session where
  tree : Tree
  printed : List String := []
  deriving Repr

/-- A part of a command. It can end the command. -/
abbrev Dialogue (α : Type) := ExceptT Ending (StateM Session) α

/-- The lines of markup that is printed on a screen. -/
def printed (columns : Nat) (markup : String) : Except Markup.Error (List (List Char)) :=
  ({ width := columns } : Layout).drawMarkup markup

/-- What stands before a line that tells how far a command is: a mark and a blank, as far as the
screen has room for them beside the text. -/
def progressMark (columns width index : Nat) : List Char :=
  if width + 2 ≤ columns then (if index = 0 then "* " else "  ").toList
  else if width + 1 ≤ columns then [' ']
  else []

/-- The lines that tell on a screen how far a command is. They are not wrapped. -/
def progressLines (columns : Nat) (markup : String) : Except Markup.Error (List (List Char)) := do
  let shown ← Markup.shown ("[progress.description]" ++ markup)
  let wanted := Text.widest shown.text
  let layout : Layout := {
    width := min wanted columns, wraps := false, ellipsis := true, alignment := some .left }
  return (← layout.draw shown).zipIdx.map fun (line, index) =>
    progressMark columns wanted index ++ Text.padRight layout.width line

namespace Dialogue

/-- A result, or a break off. -/
def orCrash {α ε : Type} (crash : ε → Crash) (result : Except ε α) : Dialogue α :=
  match result with
  | .ok value => return value
  | .error error => throw (.crashed (crash error))

/-- Prints lines. -/
def say (lines : List (List Char)) : Dialogue Unit :=
  modify fun session => { session with printed := session.printed ++ lines.map String.ofList }

/-- Prints markup. -/
def print (around : Surroundings) (markup : String) : Dialogue Unit := do
  say (← orCrash .markup (printed around.columns markup))

/-- Prints what went wrong and ends the command. -/
def fail {α : Type} (around : Surroundings) (message : String) : Dialogue α := do
  print around ("[red]Error:[/red] " ++ Markup.escape message)
  throw .failed

/-- The lines that tell how far a command is. -/
def progress (around : Surroundings) (markup : String) : Dialogue (List (List Char)) :=
  orCrash .markup (progressLines around.columns markup)

end Dialogue

open Dialogue

/-! ## Generating -/

/-- Runs the generation of one client. -/
def runGeneration (around : Surroundings) (settings : Settings) :
    Dialogue (Except Error Result) := do
  let (outcome, tree) := (generate around settings).run.run (← get).tree
  modify fun session => { session with tree := tree }
  return outcome

/-- Prints the files of a client and the operations that were left out. -/
def printResult (around : Surroundings) (result : Result) : Dialogue Unit := do
  print around "[dim]Generated files:[/dim]"
  result.files.forM fun path => print around ("  - " ++ path.text)
  result.failures.forM fun failure =>
    print around ("[yellow]Skipped[/yellow] " ++ failure.operation ++ ": " ++
      Markup.escape failure.fault.message)

/-- Generates one client and tells whether nothing was left out. -/
def generateClient (around : Surroundings) (settings : Settings) : Dialogue Bool := do
  let started ← progress around
    ("Generating code for " ++ settings.source ++ " in " ++ settings.output ++ "...")
  match ← runGeneration around settings with
  | .ok result =>
    say (← progress around ("Code generation completed for " ++ settings.source ++ "!"))
    printResult around result
    return result.ok
  | .error error =>
    say started
    match error.fault? with
    | some fault => fail around fault.message
    | none => throw (.crashed (.run error))

/-- The clients of a configuration. One that is missing is reported. -/
def configured (around : Surroundings) (named : Option String) : Dialogue (List Settings) := do
  match Configuration.find around (← get).tree named with
  | .ok documents => return documents
  | .error error =>
    match error with
    | .absent | .unreadable ⟨.notFound, _⟩ => fail around error.message
    | _ => throw (.crashed (.configuration error))

/-- Generates the clients of a configuration, in order, until one fails. -/
def generateAll (around : Surroundings) (named : Option String) : Dialogue Unit := do
  let documents ← configured around named
  let complete ← documents.mapM (generateClient around)
  unless complete.all id do throw .failed

/-! ## Inspecting -/

/-- The description that a source names, to be shown. -/
def inspected (around : Surroundings) (source : String) : Dialogue Document := do
  match load around.web (← get).tree ⟨around.workingDirectory, none⟩ source with
  | .ok document => return document
  | .error (.fault fault) => fail around fault.message
  | .error error => throw (.crashed (.run (.load error)))

/-- Shows the plan of a client. -/
def inspect (around : Surroundings) (source : String) (variant : Variant) : Dialogue Unit := do
  let document ← inspected around source
  let report ← orCrash (fun error => .run (.ofPlan error))
    (planAll (.ofDocument variant document) document.operations)
  say (← orCrash .markup ((planTable document.title report).draw around.columns))

/-! ## Commands -/

/-- The version of the tool. -/
def toolVersion : String := "0.1.0"

/-- Does what a command asks for. -/
def Command.perform (around : Surroundings) : Command → Dialogue Unit
  | generate named => generateAll around named
  | inspect source variant => Run.inspect around source variant
  | version => print around ("optsgen version: " ++ toolVersion)

/-- What a command line leads to: how it ends, and the session. -/
def perform (around : Surroundings) (line : List String) (tree : Tree) : Ending × Session :=
  match Command.read line with
  | none => (.misused, { tree := tree })
  | some command =>
    match (command.perform around).run.run { tree := tree } with
    | (.ok (), session) => (.done, session)
    | (.error ending, session) => (ending, session)

end Bindery.Run

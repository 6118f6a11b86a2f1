import Bindery.Client.Endpoints
import Bindery.Client.Models
import Bindery.Client.Runtime
import Bindery.Code.Soundness
import Bindery.Files.Destination
import Bindery.Run.Configuration

/-!
# Generating a client

A run reads a description and writes four files: the models, the endpoints, the runtime and the
module that gathers them.  It is a function of the tree of files; a run that fails leaves behind
what it has written by then.
-/

namespace Bindery.Run

open Bindery.Api Bindery.Client Bindery.Code Bindery.Files Bindery.Loading Bindery.Plan
  Bindery.Typing

/-- Why a run ended early. -/
inductive Error where
  | load (error : LoadError)
  | fault (fault : Fault)
  | emptyName (cause : Naming.EmptyName)
  | internal (cause : ShapeError)
  /-- The output has no destination. -/
  | store (cause : StoreError)
  /-- The code of the client cannot be written. -/
  | unwritable (cause : Unwritable)
  /-- The system cannot be asked about a path. -/
  | path (cause : Files.Error)
  deriving DecidableEq, Repr

namespace Error

/-- The fault that is reported about a run, if it ended for one. -/
def fault? : Error → Option Fault
  | .load (.fault reported) | .fault reported => some reported
  | _ => none

/-- What is reported about a run that ended early. -/
def message : Error → String
  | .load error => error.message
  | .fault reported => reported.message
  | .emptyName cause => cause.message
  | .internal cause => cause.message
  | .store cause => cause.message
  | .unwritable cause => cause.message
  | .path cause => cause.message

/-- The end of a run for an operation that could not be planned. -/
def ofPlan : PlanError → Error
  | .emptyName cause => emptyName cause
  | .shape cause => internal cause
  | .collision ⟨operation, identifier, conflict⟩ =>
    fault (.nameCollision operation identifier conflict.message)
  | .unmappable ⟨type, reason⟩ operation part =>
    fault (.unmappableType type reason.message (some operation) (some part))

/-- The end of a run for models that could not be written. -/
def ofModels : ModelError → Error
  | .emptyName cause => emptyName cause
  | .unmappable ⟨type, reason⟩ schema property =>
    fault (.unmappableType type reason.message (some schema) (some property))

end Error

/-- A part of a run: it changes the tree of files and gives a result or ends the run. -/
abbrev Action (α : Type) := ExceptT Error (StateM Tree) α

/-- What a run gives: the files that it wrote, in order, and the operations it left out. -/
structure Result where
  files : List Destination
  failures : List Failure
  deriving Repr

/-- Whether a run left nothing out. -/
def Result.ok (result : Result) : Bool := result.failures.isEmpty

/-- A fault of the surroundings as the end of a run. -/
def outputError (destination : Destination) (error : Files.Error) : Error :=
  if error.isOfSystem then .fault (.output destination.text (some (causeOfFile error)))
  else .path error

/-- Changes the tree, or ends the run with what is wrong with a destination. -/
def change (destination : Destination) (update : Tree → Except Files.Error Tree) : Action Unit := do
  match update (← get) with
  | .ok tree => set tree
  | .error error => throw (outputError destination error)

/-- Writes a text to a file and makes the directories that the file lies in. -/
def writeText (destination : Destination) (text : String) : Action Destination := do
  change destination (·.prepare destination.parent)
  change destination (·.store destination text)
  return destination

/-- Writes a module to a file. One that does not compile is not written. -/
def writeModule (compiler : Compiler) (destination : Destination) (module : Module) :
    Action Destination := do
  if let some cause := module.flaw? then throw (.unwritable cause)
  if ! module.compiles compiler then
    throw (.fault (.generation "Generated module is not valid Python" (some destination.text) none))
  writeText destination (module.render ++ "\n")

/-- The base URL of a client: that of the settings goes before that of the description. -/
def baseUrl (settings : Settings) (document : Document) : Except Error String :=
  match Text.filled settings.baseUrl, Text.filled document.baseUrl with
  | some url, _ => .ok url
  | none, some url => .ok url
  | none, none =>
    .error (.fault (.configuration
      "No base URL: set base_url in the document or the configuration" none (some "base_url")))

/-- The name of the module in a file. -/
def moduleName (file : String) : String := (Path.parse file).stem

/-- Generates the client of a description, given what it has for the operations. That is not
looked at before the models are written. -/
def produce (compiler : Compiler) (settings : Settings) (document : Document)
    (coverage : Except Error Coverage) : Action Result := do
  let url ← baseUrl settings document
  let directory ← (Destination.parse settings.output).mapError Error.store
  change directory (·.prepare directory)
  let models ← (modelsOf document).mapError Error.ofModels
  let modelsPath ←
    writeModule compiler (directory.join (.parse settings.modelsFile)) (modelsModule models)
  let coverage ← coverage
  let endpointsPath ←
    writeModule compiler (directory.join (.parse settings.endpointsFile))
      (endpointsModule coverage.codes)
  let runtimePath ← writeText (directory.join (.parse "_runtime.py")) (runtimeText url)
  let packagePath ←
    writeModule compiler (directory.join (.parse "__init__.py")) <|
      packageModule document.title (moduleName settings.modelsFile)
        (moduleName settings.endpointsFile) (models.map (·.name)) (endpointNames coverage.codes)
  return ⟨[modelsPath, endpointsPath, runtimePath, packagePath], coverage.failures⟩

/-- What a client has for the operations of a description. -/
def coverageOf (settings : Settings) (document : Document) : Except PlanError Coverage :=
  cover (.ofDocument settings.variant document) ("." ++ moduleName settings.modelsFile)
    document.operations

/-- Generates the client of a description that is given. -/
def generateFrom (compiler : Compiler) (settings : Settings) (document : Document) :
    Action Result :=
  produce compiler settings document ((coverageOf settings document).mapError Error.ofPlan)

/-- Generates a client: loads the description that the settings name and writes the files. -/
def generate (around : Surroundings) (settings : Settings) : Action Result := do
  let document ←
    (load around.web (← get) ⟨around.workingDirectory, none⟩ settings.source).mapError Error.load
  generateFrom around.compiler settings document

end Bindery.Run

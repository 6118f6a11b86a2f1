import Bindery.Client.Endpoint

/-!
# The endpoints module

The endpoints module holds the code of every operation that could be planned and written, in the
order of the description.  An operation whose request cannot be expressed is left out.
-/

namespace Bindery.Client

open Bindery.Api Bindery.Code Bindery.Plan

/-- The code of an operation: its classes if it has options, and its functions. -/
structure OperationCode where
  plan : OperationPlan
  classes : List ClassCode
  functions : EndpointCode
  deriving Repr

namespace OperationCode

/-- The classes of a planned operation: those of its options and of their builder, if it has
options. -/
def classesOf (plan : OperationPlan) : List ClassCode :=
  match plan.options, plan.builder with
  | some options, some builder => [optionsClass options builder, builderClass builder]
  | _, _ => []

/-- The code of a planned operation. -/
def make (modelsModule : String) (plan : OperationPlan) : Except Fault OperationCode :=
  (endpoint modelsModule plan).map fun functions => ⟨plan, classesOf plan, functions⟩

/-- The items of the module that an operation contributes. -/
def items (code : OperationCode) : List Item :=
  code.classes.map (.class_ ·.definition) ++
    [.function code.functions.sync, .function code.functions.async]

/-- What the code of an operation imports. -/
def imports (code : OperationCode) : Imports :=
  .all (code.classes.map (·.imports)) ++ code.functions.imports

end OperationCode

/-- The code of planned operations, with a failure for each whose request cannot be
expressed. -/
def writeAll (modelsModule : String) :
    List OperationPlan → List OperationCode × List Failure
  | [] => ([], [])
  | plan :: rest =>
    let (codes, failures) := writeAll modelsModule rest
    match OperationCode.make modelsModule plan with
    | .ok code => (code :: codes, failures)
    | .error fault => (codes, ⟨plan.operation.name, fault⟩ :: failures)

/-- What a client has for the operations of a description: the code of those that it covers, and
a failure for each of the others. -/
structure Coverage where
  codes : List OperationCode
  failures : List Failure
  deriving Repr

/-- Plans operations and writes those that could be planned. The failures to plan an operation go
before the failures to write one. -/
def cover (setting : Setting) (modelsModule : String) (operations : List Operation) :
    Except PlanError Coverage :=
  (planAll setting operations).map fun report =>
    let (codes, skipped) := writeAll modelsModule report.plans
    ⟨codes, report.failures ++ skipped⟩

/-- The names that the code of operations exports, in the order of their definition. -/
def endpointNames (codes : List OperationCode) : List String :=
  codes.flatMap (·.plan.names.moduleNames)

/-- The endpoints module. -/
def endpointsModule (codes : List OperationCode) : Module where
  documentation := none
  body :=
    ((Imports.all (codes.map (·.imports))).statements.map fun imports =>
      .statement (.importFrom imports)) ++
    [.statement (exports (sorted (endpointNames codes)))] ++
    codes.flatMap (·.items)

/-! ## The package -/

/-- Names of the runtime module that a client's users need. -/
def publicRuntimeNames : List String := [
  "ApiError", "BuilderConsumedError", "Configuration", "MissingParameterError"]

/-- A request for names from a module of the package, unless there are none. -/
def packageImports (module : String) (names : List String) : Imports :=
  if names.isEmpty then {} else .from_ ("." ++ module) names

/-- The module that gathers the public names of a client. -/
def packageModule (title : String) (modelsName endpointsName : String)
    (modelNames endpointNames : List String) : Module where
  documentation := some (title ++ " client generated by optsgen.")
  body :=
    ((packageImports "_runtime" publicRuntimeNames ++ packageImports modelsName modelNames ++
        packageImports endpointsName endpointNames).statements.map fun imports =>
      .statement (.importFrom imports)) ++
    [.statement (exports (ascending (publicRuntimeNames ++ modelNames ++ endpointNames)))]

end Bindery.Client

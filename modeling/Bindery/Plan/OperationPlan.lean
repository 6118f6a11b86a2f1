import Bindery.Fault
import Bindery.Plan.Call

/-!
# The plan of an operation

An `OperationPlan` holds everything that the code of one operation is written from.  `plan` makes
it from the operation alone; `planAll` makes the plans of many and keeps their module-level names
apart.
-/

namespace Bindery.Plan

open Bindery.Api Bindery.Typing

/-- How a client takes parameters: gathered in options values, or one by one. -/
inductive Variant where
  | options | flat
  deriving DecidableEq, Repr

namespace Variant

/-- Every variant, in the order messages list them. -/
def all : List Variant := [options, flat]

/-- The name of a variant in configurations and on the command line. -/
def label : Variant → String
  | options => "options"
  | flat => "flat"

end Variant

/-- What a run of the generator plans with: the variant of the client, its model classes, and
the names at the top of the module that are taken. -/
structure Setting where
  variant : Variant
  models : Models
  reserved : List String
  deriving Repr

/-- The setting of a run for a description. -/
def Setting.ofDocument (variant : Variant) (document : Document) : Setting :=
  let models := Models.ofDocument document
  ⟨variant, models, Naming.endpointReserved models⟩

/-- Whether an operation has parameters to gather. -/
def gathers (operation : Operation) : Bool := ! operation.parameters.isEmpty

/-- Whether the function of an operation takes an options value. -/
def Setting.usesOptions (setting : Setting) (operation : Operation) : Bool :=
  setting.variant = .options && gathers operation

/-- Everything that the code of one operation is written from. -/
structure OperationPlan where
  operation : Operation
  names : Names
  signature : Signature
  bindings : List Binding
  options : Option Options
  builder : Option Builder
  returnType : Option Mapped
  errorType : Option Mapped
  deriving Repr

namespace OperationPlan

/-- Whether the operation's function takes an options value. -/
def usesOptions (plan : OperationPlan) : Bool := plan.options.isSome

/-- The types of the locals, of the result and of the error. -/
def types (plan : OperationPlan) : List Mapped :=
  plan.bindings.map (·.type) ++ plan.returnType.toList ++ plan.errorType.toList

end OperationPlan

/-- Why an operation could not be planned. -/
inductive PlanError where
  | emptyName (cause : Naming.EmptyName)
  | collision (collision : Collision)
  | unmappable (cause : Unmappable) (operation part : String)
  | shape (cause : ShapeError)
  deriving DecidableEq, Repr

/-- The fault that is reported about an operation, if the error is one that concerns this
operation alone. -/
def PlanError.fault? : PlanError → Option Fault
  | collision ⟨operation, identifier, conflict⟩ =>
    some (.nameCollision operation identifier conflict.message)
  | unmappable ⟨type, reason⟩ operation part =>
    some (.unmappableType type reason.message (some operation) (some part))
  | emptyName _ | shape _ => none

/-- What is reported about an operation that could not be planned. -/
def PlanError.message (error : PlanError) : String :=
  match error, error.fault? with
  | _, some fault => fault.message
  | emptyName cause, none => cause.message
  | shape cause, none => cause.message
  | _, none => ""

/-- The annotation of a part of an operation. -/
def mapPart (models : Models) (operation : String) (part : String) (type : TypeRef) :
    Except PlanError Mapped :=
  (models.map type).mapError fun cause => .unmappable cause operation part

/-- The annotation of a part of an operation that may be absent. -/
def mapPart? (models : Models) (operation : String) (part : String) (type : Option TypeRef) :
    Except PlanError (Option Mapped) :=
  match type with
  | none => .ok none
  | some type => (mapPart models operation part type).map some

/-- The annotations of the parameters of an operation, of its result and of its error. -/
structure OperationTypes where
  parameters : List Mapped
  returnType : Option Mapped
  errorType : Option Mapped
  deriving Repr

/-- The annotations of an operation. The first part without an annotation is the one that
counts. -/
def mapTypes (models : Models) (operation : Operation) : Except PlanError OperationTypes := do
  let parameters ← operation.parameters.mapM fun parameter =>
    mapPart models operation.name parameter.name parameter.type
  let returnType ← mapPart? models operation.name "return type" operation.returnType
  let errorType ← mapPart? models operation.name "error type" operation.errorType
  return ⟨parameters, returnType, errorType⟩

/-- The names of an operation's code in a setting. -/
def resolveNames (setting : Setting) (operation : Operation) : Except PlanError Names :=
  (Names.resolve setting.reserved operation (setting.usesOptions operation)).mapError fun
    | .empty cause => .emptyName cause
    | .collision collision => .collision collision

/-- The plan of an operation whose names and annotations are known. -/
def arrange (usesOptions : Bool) (operation : Operation) (names : Names)
    (types : OperationTypes) : Except ShapeError OperationPlan := do
  let options ←
    if usesOptions then (Options.make operation names types.parameters).map some else .ok none
  let shape ← Shape.make operation usesOptions options
  let call ← CallPlan.make operation shape names types.parameters
  return {
    operation := operation
    names := names
    signature := call.signature
    bindings := call.bindings
    options := options
    builder := options.map Builder.make
    returnType := types.returnType
    errorType := types.errorType }

/-- The plan of an operation. Names are derived first, then the types of the parameters, of the
result and of the error are mapped; the first error is the one that counts. -/
def plan (setting : Setting) (operation : Operation) : Except PlanError OperationPlan := do
  let names ← resolveNames setting operation
  let types ← mapTypes setting.models operation
  (arrange (setting.usesOptions operation) operation names types).mapError .shape

/-! ## Many operations -/

/-- An operation that is left out of a client, and why. -/
structure Failure where
  operation : String
  fault : Fault
  deriving DecidableEq, Repr

/-- The operations that were planned and those that failed, each in their order. -/
structure Report where
  plans : List OperationPlan
  failures : List Failure
  deriving Repr

namespace Report

/-- The report on no operation. -/
def empty : Report := ⟨[], []⟩

/-- Whether no operation failed. -/
def ok (report : Report) : Bool := report.failures.isEmpty

end Report

/-- The first planned operation that defines a name at the top of the module. -/
def owner? (plans : List OperationPlan) (name : String) : Option String :=
  (plans.find? fun plan => name ∈ plan.names.moduleNames).map (·.operation.name)

/-- The first name of a plan that an operation planned before it defines too. -/
def clash? (plans : List OperationPlan) (plan : OperationPlan) : Option Collision :=
  plan.names.moduleNames.findSome? fun name =>
    (owner? plans name).map fun owner => ⟨plan.operation.name, name, .operation owner⟩

/-- The plan of an operation after others: none of its names at the top of the module is one of
theirs. -/
def planAfter (setting : Setting) (plans : List OperationPlan) (operation : Operation) :
    Except PlanError OperationPlan :=
  match plan setting operation with
  | .error error => .error error
  | .ok plan =>
    match clash? plans plan with
    | some collision => .error (.collision collision)
    | none => .ok plan

/-- The report after one more operation. An error that does not concern the operation alone ends
the run. -/
def Report.add (setting : Setting) (report : Report) (operation : Operation) :
    Except PlanError Report :=
  match planAfter setting report.plans operation with
  | .ok plan => .ok { report with plans := report.plans ++ [plan] }
  | .error error =>
    match error.fault? with
    | some fault => .ok { report with failures := report.failures ++ [⟨operation.name, fault⟩] }
    | none => .error error

/-- The plans of operations in order. An operation that fails is reported and the others are
still planned; one that defines a name of an earlier one fails. -/
def planAll (setting : Setting) (operations : List Operation) : Except PlanError Report :=
  operations.foldlM (Report.add setting) .empty

end Bindery.Plan

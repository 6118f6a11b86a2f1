import Bindery.Client.Options
import Bindery.Client.Request

/-!
# The functions of an operation

Each operation gets a function and an asynchronous function.  Both bind the same locals and send
the same request; they differ in their name and in the helper that sends it.
-/

namespace Bindery.Client

open Bindery.Code Bindery.Plan Bindery.Typing

/-- The module that a client's shared code is in, seen from the modules beside it. -/
def runtimeModule : String := "._runtime"

/-! ## Arguments -/

/-- The annotation of an input. -/
def inputTypeExpr (input : Input) : Expr :=
  match input.type with
  | .mapped type => type.expr
  | .named name => .name name
  | .unknown => .name "Any"

/-- What the annotation of an input imports. -/
def inputImports (input : Input) : Imports :=
  match input.type with
  | .mapped type => type.imports
  | .named _ => {}
  | .unknown => .from_ "typing" ["Any"]

/-- An input as an argument. -/
def inputArgument (input : Input) : Argument := ⟨input.name, some (inputTypeExpr input)⟩

/-- The arguments of a function. Those passed by keyword may be left out. -/
def functionArguments (signature : Signature) : Arguments where
  positional := signature.positional.map inputArgument
  keywordOnly := signature.keywordOnly.map fun input => (inputArgument input, .none)

/-- What the annotations of a function's arguments import. -/
def signatureImports (signature : Signature) : Imports :=
  .all (signature.inputs.map inputImports)

/-! ## The body -/

/-- The statement that binds a local to a field of the options value. -/
def bindStatement (operation : String) (binding : Binding) : Statement :=
  let read := Expr.field (.name optionsArgument) binding.name
  let value :=
    if binding.checksPresence then
      .call (.name "require") [read, .text operation, .text binding.parameter.name] []
    else read
  .assign (.name binding.name) value

/-- The statements that bind the locals; arguments are bound already. -/
def bindStatements (plan : OperationPlan) : List Statement :=
  if plan.usesOptions then plan.bindings.map (bindStatement plan.operation.name) else []

/-- The documentation of an operation's functions. -/
def endpointDocumentation (plan : OperationPlan) : String :=
  let operation := plan.operation
  let summary :=
    match Text.filled operation.description with
    | some description => description
    | none => Text.upper operation.method ++ " " ++ operation.path
  match plan.options with
  | none => summary
  | some options =>
    textOfLines <|
      [summary, "", "Args:", "    configuration: Connection settings.",
        "    params: Parameters, usually made with ``" ++ options.name ++ ".builder()``.", "",
        "Raises:"] ++
      (if plan.bindings.any (·.checksPresence) then
        ["    MissingParameterError: If a required parameter is unset."] else []) ++
      ["    ApiError: If the API answers with an error status."]

/-- A keyword argument for a value that is there. -/
def keyword? (name : String) (value : Option Expr) : List (String × Expr) :=
  (value.map fun value => (name, value)).toList

/-- The keyword arguments of a request. -/
def requestKeywords (plan : OperationPlan) : Except SeveralBodies (List (String × Expr)) :=
  (body? plan.bindings).map fun body =>
    keyword? "params" (dictionary? .query plan.bindings) ++
    keyword? "headers" (dictionary? .header plan.bindings) ++
    keyword? "data" (dictionary? .form plan.bindings) ++
    keyword? "json" body ++
    keyword? "response_model" (plan.returnType.map (·.expr)) ++
    keyword? "error_model" (plan.errorType.map (·.expr))

/-- The helper that sends a request. -/
def requestHelper (isAsync : Bool) : String :=
  if isAsync then "request_async" else "request_sync"

/-- The expression that sends a request, given its keyword arguments. -/
def requestExpr (plan : OperationPlan) (keywords : List (String × Expr)) (isAsync : Bool) :
    Expr :=
  let call := Expr.call (.name (requestHelper isAsync))
    [.name configurationArgument, .text (Text.lower plan.operation.method),
      pathExpr plan.operation.path plan.bindings] keywords
  if isAsync then .await call else call

/-- A function of an operation, given the keyword arguments of its request. -/
def endpointFunction (plan : OperationPlan) (keywords : List (String × Expr)) (isAsync : Bool) :
    Function where
  name := if isAsync then plan.names.asyncFunction else plan.names.function
  isAsync := isAsync
  decorators := []
  arguments := functionArguments plan.signature
  returns := some ((plan.returnType.map (·.expr)).getD .none)
  documentation := some (documented (endpointDocumentation plan))
  body := bindStatements plan ++ [.result (requestExpr plan keywords isAsync)]

/-! ## Everything together -/

/-- What a type imports, with its model classes from their module. -/
def typeImports (modelsModule : String) (type : Mapped) : Imports :=
  type.imports ++ (if type.models.isEmpty then {} else .from_ modelsModule type.models)

/-- What the functions of an operation import. -/
def endpointImports (modelsModule : String) (plan : OperationPlan) : Imports :=
  .from_ runtimeModule ["Configuration", "request_sync", "request_async"] ++
  (if plan.bindings.any joinsItems then .from_ runtimeModule ["format_collection"] else {}) ++
  (if plan.bindings.any (·.checksPresence) then .from_ runtimeModule ["require"] else {}) ++
  signatureImports plan.signature ++
  .all (plan.types.map (typeImports modelsModule))

/-- The two functions of an operation and what they import. -/
structure EndpointCode where
  sync : Function
  async : Function
  imports : Imports
  deriving Repr

/-- The functions of an operation. A request with several bodies cannot be sent. -/
def endpoint (modelsModule : String) (plan : OperationPlan) : Except Fault EndpointCode :=
  match requestKeywords plan with
  | .error error =>
    .error (.endpoint plan.operation.name (some plan.operation.method) (some plan.operation.path)
      (some ⟨"ValueError", some error.message⟩))
  | .ok keywords => .ok {
      sync := endpointFunction plan keywords false
      async := endpointFunction plan keywords true
      imports := endpointImports modelsModule plan }

end Bindery.Client

import Bindery.Proofs.Modules

/-!
# One request for both shapes

The function of an operation takes its parameters one by one or as an options value.  This module
shows that the choice does not reach the request: an operation that can be planned with options
can be planned without, over the same locals, and its functions send the same request or cannot
be written for the same reason.
-/

namespace Bindery.Plan

open Bindery.Api Bindery.Steps Bindery.Typing

/-- The field that a local stands for: what is left of it without its source. -/
def Binding.field (binding : Binding) : Field := ⟨binding.name, binding.parameter, binding.type⟩

@[simp] theorem field_binding (source : Source) (field : Field) :
    (field.binding source).field = field := rfl

/-- The local as it would be if its parameter were an argument of its own. -/
def Binding.asArgument (binding : Binding) : Binding := binding.field.binding .argument

/-- The locals of a plan stand for the fields of its parameters, whatever their source. -/
theorem map_field_bindings_assemble (operation : Operation) (names : Names)
    (types : OperationTypes) :
    (OperationPlan.assemble operation names types).bindings.map Binding.field =
      fieldsOf names.members operation.parameters types.parameters := by
  simp [OperationPlan.assemble, Function.comp_def]

namespace Names

/-- The names of an operation's code without those of its classes. -/
def flat (names : Names) : Names := { names with optionsClass := none, builderClass := none }

/-- Names that were derived along with those of classes could be derived without. -/
theorem Resolved.flat {reserved : List String} {operation : Operation} {usesOptions : Bool}
    {names : Names} (resolved : names.Resolved reserved operation usesOptions) :
    names.flat.Resolved reserved operation false := by
  refine ⟨resolved.function, ?_, ?_, resolved.members⟩
  · rw [resolved.heading]
    rfl
  · intro name member
    apply resolved.free name
    simp only [moduleNames, classes, Names.flat, List.mem_cons] at member ⊢
    rcases member with function | asyncFunction | nothing
    · exact .inl function
    · exact .inr (.inl asyncFunction)
    · cases nothing

end Names

/-- An operation that can be planned for either variant can be planned without options, with the
same members and types. -/
theorem plan_flat_eq_ok {models : Models} {reserved : List String} {variant : Variant}
    {operation : Operation} {names : Names} {types : OperationTypes}
    (resolved : names.Resolved reserved operation
      (Setting.usesOptions ⟨variant, models, reserved⟩ operation))
    (mapped : mapTypes models operation = .ok types) :
    plan ⟨.flat, models, reserved⟩ operation = .ok (.assemble operation names.flat types) :=
  plan_eq_ok_iff.2 ⟨names.flat, types, resolved.flat, mapped, rfl⟩

end Bindery.Plan

namespace Bindery.Code

/-- The value of a statement that ends a function with one. -/
def Statement.result? : Statement → Option Expr
  | .result value => some value
  | _ => none

/-- The values of the statements that end a function with one, in their order. -/
def Function.results (function : Function) : List Expr := function.body.filterMap (·.result?)

end Bindery.Code

namespace Bindery.Client

open Bindery.Api Bindery.Code Bindery.Plan Bindery.Steps Bindery.Typing

/-! ## What a request is read off

Each part of a request is the same over locals as over those that stand for the same fields and
are arguments. -/

@[simp] theorem wireValue_asArgument (binding : Binding) :
    wireValue binding.asArgument = wireValue binding := rfl

@[simp] theorem located_map_asArgument (location : Location) (bindings : List Binding) :
    located location (bindings.map Binding.asArgument) =
      (located location bindings).map Binding.asArgument := by
  rw [located, List.filter_map]
  rfl

@[simp] theorem dictionary?_map_asArgument (location : Location) (bindings : List Binding) :
    dictionary? location (bindings.map Binding.asArgument) = dictionary? location bindings := by
  simp only [dictionary?]
  rw [located_map_asArgument]
  cases located location bindings with
  | nil => rfl
  | cons binding rest =>
      simp only [List.map_cons, List.map_map, Function.comp_def, wireValue_asArgument]
      rfl

@[simp] theorem body?_map_asArgument (bindings : List Binding) :
    body? (bindings.map Binding.asArgument) = body? bindings := by
  simp only [body?]
  rw [located_map_asArgument]
  match located .body bindings with
  | [] => rfl
  | [_] => rfl
  | first :: second :: rest =>
      simp only [List.map_cons, List.map_map, Function.comp_def]
      rfl

@[simp] theorem pathValue?_map_asArgument (bindings : List Binding) :
    pathValue? (bindings.map Binding.asArgument) = pathValue? bindings := by
  funext name
  simp only [pathValue?]
  rw [located_map_asArgument, ← List.map_reverse, List.find?_map, Option.map_map]
  rfl

@[simp] theorem pathExpr_map_asArgument (path : String) (bindings : List Binding) :
    pathExpr path (bindings.map Binding.asArgument) = pathExpr path bindings := by
  simp only [pathExpr]
  rw [pathValue?_map_asArgument]

/-! ## Requests of two plans -/

/-- Two plans of one operation with the same types, over locals that stand for the same
fields. -/
structure SameLocals (first second : OperationPlan) : Prop where
  operation : first.operation = second.operation
  bindings : first.bindings.map Binding.field = second.bindings.map Binding.field
  returnType : first.returnType = second.returnType
  errorType : first.errorType = second.errorType

namespace SameLocals

variable {first second : OperationPlan}

theorem map_asArgument (same : SameLocals first second) :
    first.bindings.map Binding.asArgument = second.bindings.map Binding.asArgument := by
  have fields := congrArg (List.map (Field.binding .argument)) same.bindings
  rwa [List.map_map, List.map_map] at fields

theorem dictionary?_eq (same : SameLocals first second) (location : Location) :
    dictionary? location first.bindings = dictionary? location second.bindings := by
  rw [← dictionary?_map_asArgument, same.map_asArgument, dictionary?_map_asArgument]

theorem body?_eq (same : SameLocals first second) :
    body? first.bindings = body? second.bindings := by
  rw [← body?_map_asArgument, same.map_asArgument, body?_map_asArgument]

theorem requestKeywords_eq (same : SameLocals first second) :
    requestKeywords first = requestKeywords second := by
  simp only [requestKeywords]
  rw [same.body?_eq, same.dictionary?_eq, same.dictionary?_eq, same.dictionary?_eq,
    same.returnType, same.errorType]

theorem requestExpr_eq (same : SameLocals first second) (keywords : List (String × Expr))
    (isAsync : Bool) :
    requestExpr first keywords isAsync = requestExpr second keywords isAsync := by
  have path : pathExpr first.operation.path first.bindings =
      pathExpr second.operation.path second.bindings := by
    rw [← pathExpr_map_asArgument, same.map_asArgument, pathExpr_map_asArgument, same.operation]
  simp only [requestExpr]
  rw [path, same.operation]

/-- The functions of one plan cannot be written for a reason if those of the other cannot. -/
theorem endpoint_error (same : SameLocals first second) {modelsModule : String} {fault : Fault}
    (failed : endpoint modelsModule first = .error fault) :
    endpoint modelsModule second = .error fault := by
  simp only [endpoint] at failed ⊢
  rw [← same.requestKeywords_eq, ← same.operation]
  cases keywords : requestKeywords first with
  | error error =>
      rw [keywords] at failed
      cases failed
      rfl
  | ok found =>
      rw [keywords] at failed
      cases failed

theorem symm (same : SameLocals first second) : SameLocals second first :=
  ⟨same.operation.symm, same.bindings.symm, same.returnType.symm, same.errorType.symm⟩

end SameLocals

/-! ## Functions -/

/-- Binding the locals returns nothing. -/
theorem filterMap_result?_bindStatements (plan : OperationPlan) :
    (bindStatements plan).filterMap (·.result?) = [] := by
  rw [List.filterMap_eq_nil_iff]
  intro statement member
  simp only [bindStatements] at member
  split at member
  · obtain ⟨binding, -, rfl⟩ := List.mem_map.1 member
    rfl
  · cases member

/-- A function returns the answer to its request and nothing else. -/
@[simp] theorem results_endpointFunction (plan : OperationPlan)
    (keywords : List (String × Expr)) (isAsync : Bool) :
    (endpointFunction plan keywords isAsync).results = [requestExpr plan keywords isAsync] := by
  simp only [Function.results, endpointFunction]
  rw [List.filterMap_append, filterMap_result?_bindStatements]
  rfl

/-- The functions of plans over the same locals return the answers to the same requests. -/
theorem SameLocals.exists_results {first second : OperationPlan} (same : SameLocals first second)
    {modelsModule : String} {firstCode secondCode : EndpointCode}
    (firstWritten : endpoint modelsModule first = .ok firstCode)
    (secondWritten : endpoint modelsModule second = .ok secondCode) :
    ∃ request asyncRequest,
      firstCode.sync.results = [request] ∧ secondCode.sync.results = [request] ∧
      firstCode.async.results = [asyncRequest] ∧ secondCode.async.results = [asyncRequest] := by
  obtain ⟨keywords, found, rfl⟩ := endpoint_eq_ok_iff.1 firstWritten
  obtain ⟨others, foundOthers, rfl⟩ := endpoint_eq_ok_iff.1 secondWritten
  rw [same.requestKeywords_eq, foundOthers] at found
  cases found
  refine ⟨requestExpr first keywords false, requestExpr first keywords true, ?_, ?_, ?_, ?_⟩
  · exact results_endpointFunction ..
  · rw [same.requestExpr_eq]
    exact results_endpointFunction ..
  · exact results_endpointFunction ..
  · rw [same.requestExpr_eq]
    exact results_endpointFunction ..

/-- Gathering the parameters of an operation does not change what it sends.  An operation that can
be planned with options can be planned without; the locals are the same apart from their source,
and so are the types of the result and of the error.  The functions of the two plans fail to be
written for the same faults, and where they are written they return the answer to one request. -/
theorem flat_request_eq_options_request {models : Models} {reserved : List String}
    {operation : Operation} {optionsPlan : OperationPlan}
    (planned : plan ⟨.options, models, reserved⟩ operation = .ok optionsPlan) :
    ∃ flatPlan, plan ⟨.flat, models, reserved⟩ operation = .ok flatPlan ∧
      optionsPlan.bindings.map Binding.field = flatPlan.bindings.map Binding.field ∧
      optionsPlan.returnType = flatPlan.returnType ∧
      optionsPlan.errorType = flatPlan.errorType ∧
      ∀ modelsModule,
        (∀ fault, endpoint modelsModule optionsPlan = .error fault ↔
          endpoint modelsModule flatPlan = .error fault) ∧
        ∀ optionsCode flatCode,
          endpoint modelsModule optionsPlan = .ok optionsCode →
          endpoint modelsModule flatPlan = .ok flatCode →
          ∃ request asyncRequest,
            optionsCode.sync.results = [request] ∧ flatCode.sync.results = [request] ∧
            optionsCode.async.results = [asyncRequest] ∧
            flatCode.async.results = [asyncRequest] := by
  obtain ⟨names, types, resolved, mapped, rfl⟩ := plan_eq_ok_iff.1 planned
  have same : SameLocals (.assemble operation names types)
      (.assemble operation names.flat types) := by
    refine ⟨rfl, ?_, rfl, rfl⟩
    rw [map_field_bindings_assemble, map_field_bindings_assemble]
    rfl
  refine ⟨_, plan_flat_eq_ok resolved mapped, same.bindings, rfl, rfl, fun modelsModule => ?_⟩
  constructor
  · intro fault
    exact ⟨same.endpoint_error, same.symm.endpoint_error⟩
  · intro optionsCode flatCode optionsWritten flatWritten
    exact same.exists_results optionsWritten flatWritten

/-- An operation with a parameter in each part of its request, one of them an array. -/
def storePet : Operation where
  name := "storePet"
  method := "PUT"
  path := "/pets/{id}"
  parameters := [
    { name := "id", location := .path, required := true, type := { type := some "integer" } },
    { name := "tags", location := .query, collectionFormat := some .csv,
      type := { type := some "array", items := some { type := some "string" } } },
    { name := "X-Trace", location := .header, type := { type := some "string" } },
    { name := "pet", location := .body, required := true, type := { ref := some "Pet" } }]
  returnType := some { ref := some "Pet" }
  errorType := some {}

/-- The operation can be planned and written either way and sends the same request. -/
theorem storePet_sends_one_request :
    ∃ optionsPlan flatPlan optionsCode flatCode request,
      plan ⟨.options, .ofSchemas ["Pet"], []⟩ storePet = .ok optionsPlan ∧
      plan ⟨.flat, .ofSchemas ["Pet"], []⟩ storePet = .ok flatPlan ∧
      endpoint ".models" optionsPlan = .ok optionsCode ∧
      endpoint ".models" flatPlan = .ok flatCode ∧
      optionsCode.sync.results = [request] ∧ flatCode.sync.results = [request] := by
  have written : ((plan ⟨.options, .ofSchemas ["Pet"], []⟩ storePet).toOption.bind fun plan =>
      (endpoint ".models" plan).toOption).isSome = true := by
    decide +kernel
  obtain ⟨optionsCode, written⟩ := Option.isSome_iff_exists.1 written
  obtain ⟨optionsPlan, planned, written⟩ := toOption_bind_eq_some_iff.1 written
  have written := toOption_eq_some_iff.1 written
  obtain ⟨flatPlan, flatPlanned, -, -, -, same⟩ := flat_request_eq_options_request planned
  obtain ⟨faults, requests⟩ := same ".models"
  cases flatWritten : endpoint ".models" flatPlan with
  | error fault =>
      rw [(faults fault).2 flatWritten] at written
      cases written
  | ok flatCode =>
      obtain ⟨request, -, first, second, -⟩ := requests _ _ written flatWritten
      exact ⟨_, _, _, _, request, planned, flatPlanned, written, flatWritten, first, second⟩

end Bindery.Client

import Bindery.Proofs.Bodies
import Bindery.Proofs.Origins

/-!
# Two functions for one operation

Every operation has a function and an asynchronous function.  They are written one after the other
from the same plan, and share what they import.  Callers may pass from one to the other only if
nothing else is different between them than what waiting for the answer takes: this is stated here
as an equation between the two, and what they import is determined name by name.
-/

namespace Bindery.Code

/-- An asynchronous function does what another does: beside its name, which has a letter more, it
differs only in the last statement, where it waits for the answer of another helper.  The locals
that are bound before and the arguments of the helper are the same. -/
def Function.AwaitsLike (async sync : Function) : Prop :=
  ∃ locals arguments keywords,
    sync.isAsync = false ∧
    sync.body = locals ++ [.result (.call (.name "request_sync") arguments keywords)] ∧
    async = { sync with
      name := "a" ++ sync.name
      isAsync := true
      body := locals ++ [.result (.await (.call (.name "request_async") arguments keywords))] }

/-- What is asked for from some module is asked for. -/
theorem Imports.mem_requested_of_mem_names {imports : Imports} {module name : String}
    (asked : name ∈ imports.names module) : name ∈ imports.requested := by
  obtain ⟨names, request, found⟩ := mem_names.1 asked
  exact List.mem_flatMap_of_mem request found

end Bindery.Code

namespace Bindery.Client

open Bindery.Api Bindery.Code Bindery.Naming Bindery.Plan Bindery.Steps Bindery.Typing

/-! ## The two functions -/

theorem awaitsLike_endpointFunction {plan : OperationPlan}
    (named : plan.names.asyncFunction = "a" ++ plan.names.function)
    (keywords : List (String × Expr)) :
    (endpointFunction plan keywords true).AwaitsLike (endpointFunction plan keywords false) := by
  refine ⟨bindStatements plan, _, keywords, rfl, rfl, ?_⟩
  simp only [endpointFunction, if_true, named]
  rfl

/-! ## What they import -/

variable {setting : Setting} {schemas reserved : List String} {variant : Variant}
  {modelsModule : String} {operation : Operation} {plan : OperationPlan}

/-- A local is checked exactly if a plan gathers parameters of which one is required. -/
theorem any_checksPresence_iff (planned : Plan.plan setting operation = .ok plan) :
    plan.bindings.any (·.checksPresence) = true ↔
      plan.usesOptions = true ∧ ∃ parameter ∈ operation.parameters, parameter.required = true := by
  have holds := map_parameter_bindings planned
  obtain ⟨names, types, resolved, mapped, rfl⟩ := plan_eq_ok_iff.1 planned
  rw [usesOptions_assemble resolved, ← holds]
  simp only [List.any_eq_true, List.mem_map, exists_exists_and_eq_and]
  cases uses : setting.usesOptions operation with
  | true =>
      rw [uses] at resolved
      have checks := (gathers_assemble resolved mapped resolved.optionsClass).checksPresence
      rw [and_iff_right rfl]
      exact exists_congr fun binding => and_congr_right fun member => by rw [checks binding member]
  | false =>
      rw [uses] at resolved
      have unchecked := (lists_assemble resolved mapped).checksPresence
      refine iff_of_false ?_ fun gathers => Bool.false_ne_true gathers.1
      rintro ⟨binding, member, checks⟩
      rw [unchecked binding member] at checks
      cases checks

/-- No class is called like the helper that checks that a value is there. -/
theorem require_not_mem_classNames : "require" ∉ (Models.ofSchemas schemas).classNames := by
  simp only [Models.classNames, Models.ofSchemas, List.map_map, List.mem_map, Function.comp_def,
    not_exists, not_and]
  exact fun schema _ => className_ne_of_isLower (by decide) schema

/-- The helper that checks that a value is there is asked for only where a local is checked: neither
an annotation nor a class has its name. -/
theorem asks_require_iff
    (planned : Plan.plan ⟨variant, .ofSchemas schemas, reserved⟩ operation = .ok plan) :
    Asks modelsModule plan "._runtime" "require" ↔
      plan.bindings.any (·.checksPresence) = true := by
  obtain ⟨names, types, -, mapped, rfl⟩ := plan_eq_ok_iff.1 planned
  have known := (closed_known (.ofSchemas schemas)).types mapped names
  constructor
  · intro asks
    generalize isRequire : "require" = name at asks
    cases asks with
    | sending member =>
        subst isRequire
        exact absurd member (by decide)
    | joining => exact absurd isRequire (by decide)
    | checking checks => exact checks
    | annotating inTypes asked =>
        subst isRequire
        have isAnnotation := (known _ inTypes).imports _ (Imports.mem_requested_of_mem_names asked)
        exact absurd isAnnotation (by decide)
    | modelling inTypes isModel =>
        subst isRequire
        exact absurd ((known _ inTypes).models isModel) require_not_mem_classNames
  · exact .checking

/-- The functions of a planned operation whose request can be expressed.  The asynchronous one
differs from the other only in what waiting takes.  They import the helpers that send the request,
what the annotations of the plan need and the classes that these mention, and beside that at most
the helpers that join items and check values: the latter exactly if parameters are gathered of which
one is required. -/
theorem functions_differ_in_waiting
    (planned : Plan.plan ⟨variant, .ofSchemas schemas, reserved⟩ operation = .ok plan)
    {code : EndpointCode} (written : endpoint modelsModule plan = .ok code) :
    code.async.AwaitsLike code.sync ∧
    (∀ source name, name ∈ code.imports.names source ↔ Asks modelsModule plan source name) ∧
    ("require" ∈ code.imports.names "._runtime" ↔
      plan.usesOptions = true ∧ ∃ parameter ∈ operation.parameters, parameter.required = true) := by
  obtain ⟨keywords, -, rfl⟩ := endpoint_eq_ok_iff.1 written
  obtain ⟨names, types, resolved, -, assembled⟩ := plan_eq_ok_iff.1 planned
  have asks (source name : String) : name ∈ (endpointImports modelsModule plan).names source ↔
      Asks modelsModule plan source name := mem_names_endpointImports_iff assembled
  have named : plan.names.asyncFunction = "a" ++ plan.names.function := by
    rw [assembled, OperationPlan.assemble, resolved.heading]
    rfl
  refine ⟨awaitsLike_endpointFunction named keywords, asks, ?_⟩
  rw [asks, asks_require_iff planned, any_checksPresence_iff planned]

/-- The functions of the search check the parameters that are required. -/
theorem searchPets_differ_in_waiting :
    ∃ plan code,
      Plan.plan ⟨.options, .ofSchemas ["Pet"], []⟩ searchPets = .ok plan ∧
      endpoint ".models" plan = .ok code ∧
      code.async.AwaitsLike code.sync ∧ code.async.name = "asearch_pets" ∧
      code.imports.names "._runtime" =
        ["Configuration", "request_async", "request_sync", "require"] ∧
      (∀ source name, name ∈ code.imports.names source ↔ Asks ".models" plan source name) ∧
      plan.usesOptions = true ∧
      ∃ parameter ∈ searchPets.parameters, parameter.required = true := by
  have shown : (Plan.plan ⟨.options, .ofSchemas ["Pet"], []⟩ searchPets).toOption.bind (fun plan =>
      (endpoint ".models" plan).toOption.map fun code =>
        (code.async.name, code.imports.names "._runtime")) =
      some ("asearch_pets", ["Configuration", "request_async", "request_sync", "require"]) := by
    decide +kernel
  obtain ⟨plan, planned, found⟩ := toOption_bind_eq_some_iff.1 shown
  obtain ⟨code, written, same⟩ := toOption_map_eq_some_iff.1 found
  obtain ⟨named, listed⟩ := Prod.mk.inj same
  obtain ⟨awaits, asks, requires⟩ := functions_differ_in_waiting planned written
  have checks := requires.1 (by rw [listed]; decide)
  exact ⟨plan, code, planned, written, awaits, named, listed, asks, checks⟩

end Bindery.Client

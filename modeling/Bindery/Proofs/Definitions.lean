import Bindery.Proofs.Content
import Bindery.Proofs.Outcomes
import Bindery.Proofs.Requested

/-!
# The definitions of the endpoints module are distinct

Every operation defines two functions and, if it has options, two classes.  That these four names
differ from each other is never tested: their numbers of letters and digits differ.  That they
differ from the names of other operations is tested while operations are planned one after the
other, and that they differ from everything imported follows from the reserved names.
-/

namespace Bindery.Plan.Names

open Bindery.Api Bindery.Naming

/-! ## The names of one operation -/

/-- How many letters and digits a name has. -/
def extent (name : String) : Nat := (content name.toList).length

theorem extent_append (first second : String) :
    extent (first ++ second) = extent first + extent second := by
  simp only [extent]
  rw [String.toList_append, content_append, List.length_append]

theorem extent_optionsClass (operation : String) :
    extent (Naming.optionsClass operation) = extent (className operation) + 6 :=
  extent_append ..

theorem extent_builderClass (options : String) :
    extent (Naming.builderClass options) = extent options + 7 :=
  extent_append ..

/-- A class name has as many letters and digits as the name of a function for the same operation,
or eleven. -/
theorem extent_className {operation function : String}
    (derived : functionName operation = .ok function) :
    extent (className operation) = if extent function = 0 then 11 else extent function := by
  rw [extent, length_content_className, ← content_functionName derived, extent]
  simp only [List.length_eq_zero_iff]

/-- The names at the top of the module that an operation defines are distinct. -/
theorem Resolved.nodup_moduleNames {reserved : List String} {operation : Operation}
    {usesOptions : Bool} {names : Names}
    (resolved : names.Resolved reserved operation usesOptions) : names.moduleNames.Nodup := by
  apply List.Nodup.of_map extent
  have asyncExtent : extent ("a" ++ names.function) = 1 + extent names.function :=
    extent_append ..
  have optionsExtent := extent_optionsClass operation.name
  have builderExtent := extent_builderClass (Naming.optionsClass operation.name)
  rw [extent_className resolved.function] at optionsExtent
  rw [resolved.heading]
  cases usesOptions with
  | false => simp [moduleNames, classes, Names.heading, asyncExtent]
  | true =>
      simp only [moduleNames, classes, Names.heading, if_true, Option.map_some,
        Option.toList_some, List.singleton_append, List.map_cons, List.map_nil, List.nodup_cons,
        List.mem_cons, List.not_mem_nil, or_false, asyncExtent]
      split at optionsExtent <;> simp <;> omega

end Bindery.Plan.Names

namespace Bindery.Client

open Bindery.Api Bindery.Code Bindery.Naming Bindery.Plan Bindery.Steps Bindery.Typing

variable {models : Models}

/-! ## Names that are imported -/

theorem annotationImports_subset : annotationImports ⊆ endpointReserved models := by
  intro name member
  simp [endpointReserved, member]

theorem classNames_subset : models.classNames ⊆ endpointReserved models := by
  intro name member
  simp [endpointReserved, member]

theorem modelBaseNames_subset : modelBaseNames ⊆ endpointReserved models := by
  intro name member
  simp [endpointReserved, member]

theorem runtimeNames_subset : runtimeNames ⊆ endpointReserved models := by
  intro name member
  simp [endpointReserved, member]

/-- The code of an operation imports reserved names only. -/
theorem imports_within {setting : Setting} {modelsModule : String} {operation : Operation}
    {code : OperationCode} (planned : Plan.plan setting operation = .ok code.plan)
    (made : OperationCode.make modelsModule code.plan = .ok code) :
    code.imports.Within (endpointReserved setting.models) := by
  obtain ⟨names, types, -, mapped, assembled⟩ := plan_eq_ok_iff.1 planned
  have known {type : Mapped} (inTypes : type ∈ code.plan.types) : type.Known setting.models := by
    rw [assembled] at inTypes
    exact (closed_known _).types mapped names type inTypes
  intro name member
  obtain ⟨request, asked, inside⟩ := List.mem_flatMap.1 member
  cases requests_of_mem_imports assembled made asked with
  | fixed member =>
      have base : ∀ request ∈ fixedRequests,
          request.2 ⊆ runtimeNames ∨ request.2 ⊆ modelBaseNames := by
        decide
      exact (base request member).elim (fun subset => runtimeNames_subset (subset inside))
        (fun subset => modelBaseNames_subset (subset inside))
  | annotating inTypes annotation =>
      exact annotationImports_subset
        ((known inTypes).imports name (List.mem_flatMap_of_mem annotation inside))
  | modelling inTypes => exact classNames_subset ((known inTypes).models inside)

/-! ## Names that are taken by others -/

variable {setting : Setting} {modelsModule : String}

theorem planAfter_of_outcomeAfter {plans : List OperationPlan} {operation : Operation}
    {outcome : Outcome} {plan : OperationPlan}
    (done : outcomeAfter setting modelsModule plans operation = .ok outcome)
    (planned : outcome.plan? = some plan) : planAfter setting plans operation = .ok plan := by
  simp only [outcomeAfter] at done
  split at done
  · next found there =>
      cases done
      rw [plan?_ofPlan] at planned
      cases planned
      exact there
  · split at done
    · cases done
      cases planned
    · cases done

/-- One operation more keeps the names of plans distinct. -/
theorem nodup_moduleNames_step {plans : List OperationPlan} {operation : Operation}
    {outcome : Outcome}
    (done : outcomeAfter setting modelsModule plans operation = .ok outcome)
    (distinct : (plans.flatMap (·.names.moduleNames)).Nodup) :
    ((plans ++ outcome.plan?.toList).flatMap (·.names.moduleNames)).Nodup := by
  cases planned : outcome.plan? with
  | none => simpa using distinct
  | some plan =>
      obtain ⟨alone, clear⟩ := planAfter_eq_ok_iff.1 (planAfter_of_outcomeAfter done planned)
      obtain ⟨names, types, resolved, -, rfl⟩ := plan_eq_ok_iff.1 alone
      rw [Option.toList_some, List.flatMap_append, List.flatMap_singleton, List.nodup_append']
      refine ⟨distinct, resolved.nodup_moduleNames, ?_⟩
      intro name before here
      obtain ⟨earlier, inPlans, inside⟩ := List.mem_flatMap.1 before
      exact clear earlier inPlans name here inside

/-- The names that the operations of a run claim at the top of the module are distinct. -/
theorem nodup_moduleNames_run {plans : List OperationPlan} {operations : List Operation}
    {results : List Outcome}
    (done : outcomesAfter setting modelsModule plans operations = .ok results)
    (distinct : (plans.flatMap (·.names.moduleNames)).Nodup) :
    ((plans ++ results.filterMap Outcome.plan?).flatMap (·.names.moduleNames)).Nodup := by
  induction operations generalizing plans results with
  | nil =>
      cases done
      simpa using distinct
  | cons operation rest ih =>
      obtain ⟨outcome, first, done⟩ := bind_eq_ok_iff.1 done
      obtain ⟨more, later, done⟩ := bind_eq_ok_iff.1 done
      cases done
      have grown := ih later (nodup_moduleNames_step first distinct)
      rw [List.append_assoc] at grown
      cases outcome with
      | written code => exact grown
      | unplanned failure => exact grown
      | unwritten plan failure => exact grown

/-- The plans that are written are among those of the run, in their order. -/
theorem map_plan_code?_sublist (results : List Outcome) :
    ((results.filterMap Outcome.code?).map (·.plan)).Sublist
      (results.filterMap Outcome.plan?) := by
  induction results with
  | nil => exact .slnil
  | cons outcome rest ih =>
      cases outcome with
      | written code => exact ih.cons_cons code.plan
      | unplanned failure => exact ih
      | unwritten plan failure => exact ih.cons plan

/-! ## The names of the endpoints module -/

/-- Nothing that an operation must keep clear of is without a name. -/
theorem ne_empty_of_mem_endpointReserved {document : Document} {name : String}
    (member : name ∈ endpointReserved (.ofDocument document)) : name ≠ "" := by
  have fixed : ∀ known ∈ runtimeNames ++ annotationImports ++ modelBaseNames, known ≠ "" := by
    decide
  simp only [endpointReserved] at member
  rw [List.append_assoc, List.append_assoc, ← List.append_assoc runtimeNames] at member
  rcases List.mem_append.1 member with isClass | isFixed
  · obtain ⟨pair, inClasses, rfl⟩ := List.mem_map.1 isClass
    obtain ⟨schema, -, rfl⟩ := List.mem_map.1 inClasses
    exact className_ne_empty schema
  · exact fixed name isFixed

variable {variant : Variant} {document : Document} {coverage : Coverage}

/-- The code of every operation in a client is made from the plan of an operation. -/
theorem exists_planned_of_mem_codes {operations : List Operation}
    (covered : cover setting modelsModule operations = .ok coverage) {code : OperationCode}
    (member : code ∈ coverage.codes) :
    ∃ operation ∈ operations, Plan.plan setting operation = .ok code.plan ∧
      OperationCode.make modelsModule code.plan = .ok code := by
  rw [cover_eq_map_outcomes, map_eq_ok_iff] at covered
  obtain ⟨results, done, rfl⟩ := covered
  obtain ⟨outcome, inResults, written⟩ := List.mem_filterMap.1 member
  obtain ⟨operation, inOperations, settled⟩ :=
    exists_mem_of_forall₂ (forall₂_settles done) inResults
  cases settled with
  | written planned made =>
      cases written
      exact ⟨operation, inOperations, planned, made⟩
  | unplanned => cases written
  | unwritten => cases written

/-- The code of a plan whose request has known keyword arguments. -/
def OperationCode.assemble (modelsModule : String) (plan : OperationPlan)
    (keywords : List (String × Expr)) : OperationCode where
  plan := plan
  classes := OperationCode.classesOf plan
  functions := ⟨endpointFunction plan keywords false, endpointFunction plan keywords true,
    endpointImports modelsModule plan⟩

/-- The code of every operation in a client is put together from names, types and keyword
arguments that are known. -/
theorem exists_assembled_of_mem_codes {operations : List Operation}
    (covered : cover setting modelsModule operations = .ok coverage) {code : OperationCode}
    (member : code ∈ coverage.codes) :
    ∃ operation ∈ operations, ∃ names types keywords,
      names.Resolved setting.reserved operation (setting.usesOptions operation) ∧
      mapTypes setting.models operation = .ok types ∧
      requestKeywords (.assemble operation names types) = .ok keywords ∧
      code = .assemble modelsModule (.assemble operation names types) keywords := by
  obtain ⟨operation, inOperations, planned, made⟩ := exists_planned_of_mem_codes covered member
  obtain ⟨names, types, resolved, mapped, assembled⟩ := plan_eq_ok_iff.1 planned
  rw [assembled] at made
  obtain ⟨functions, written, rfl⟩ := OperationCode.make_eq_ok_iff.1 made
  obtain ⟨keywords, found, rfl⟩ := endpoint_eq_ok_iff.1 written
  exact ⟨operation, inOperations, names, types, keywords, resolved, mapped, found, rfl⟩

/-- What is known of the first code in a client is known of some code in it. -/
theorem exists_code_of_head? {α : Type} {operations : List Operation} {view : OperationCode → α}
    {value : α}
    (first : (cover setting modelsModule operations).toOption.bind
      (fun coverage => coverage.codes.head?.map view) = some value) :
    ∃ coverage code, cover setting modelsModule operations = .ok coverage ∧
      code ∈ coverage.codes ∧ view code = value := by
  obtain ⟨coverage, covered, first⟩ := toOption_bind_eq_some_iff.1 first
  obtain ⟨code, found, same⟩ := Option.map_eq_some_iff.1 first
  exact ⟨coverage, code, covered, List.mem_of_mem_head? found, same⟩

/-- The names that the operations in a client claim at the top of the module are distinct. -/
theorem nodup_endpointNames {operations : List Operation}
    (covered : cover setting modelsModule operations = .ok coverage) :
    (endpointNames coverage.codes).Nodup := by
  rw [cover_eq_map_outcomes, map_eq_ok_iff] at covered
  obtain ⟨results, done, rfl⟩ := covered
  have claimed := nodup_moduleNames_run done List.nodup_nil
  rw [List.nil_append] at claimed
  have fewer := (map_plan_code?_sublist results).flatMap (·.names.moduleNames)
  rw [List.flatMap_map] at fewer
  exact claimed.sublist fewer

/-- The endpoints module defines the names that the operations in a client claim. -/
theorem definedNames_perm_endpointNames {operations : List Operation}
    (covered : cover setting modelsModule operations = .ok coverage) :
    (endpointsModule coverage.codes).definedNames.Perm (endpointNames coverage.codes) := by
  rw [definedNames_endpointsModule]
  refine List.Perm.flatMap_left _ fun code member => ?_
  obtain ⟨operation, -, planned, made⟩ := exists_planned_of_mem_codes covered member
  exact OperationCode.definedNames_perm planned made

/-- The endpoints module imports reserved names only. -/
theorem importedNames_subset {operations : List Operation}
    (covered : cover setting modelsModule operations = .ok coverage) :
    (endpointsModule coverage.codes).importedNames ⊆ endpointReserved setting.models := by
  intro name member
  simp only [Module.importedNames] at member
  rw [imports_endpointsModule] at member
  obtain ⟨statement, inStatements, inside⟩ := List.mem_flatMap.1 member
  refine Imports.Within.all (fun piece inPieces => ?_) name
    (Imports.mem_requested_of_mem_statements inStatements inside)
  obtain ⟨code, inCodes, rfl⟩ := List.mem_map.1 inPieces
  obtain ⟨operation, -, planned, made⟩ := exists_planned_of_mem_codes covered inCodes
  exact imports_within planned made

/-- The classes and functions of the endpoints module have distinct names, and none of them has
the name of something that the module imports. -/
theorem endpointsModule_names_distinct
    (covered : cover (.ofDocument variant document) modelsModule document.operations =
      .ok coverage) :
    (endpointsModule coverage.codes).definedNames.Nodup ∧
      ∀ name ∈ (endpointsModule coverage.codes).definedNames,
        name ∉ (endpointsModule coverage.codes).importedNames := by
  have claims := definedNames_perm_endpointNames covered
  refine ⟨claims.nodup_iff.2 (nodup_endpointNames covered), ?_⟩
  intro name defined imported
  have reserved := importedNames_subset covered imported
  obtain ⟨code, inCodes, inside⟩ := List.mem_flatMap.1 (claims.mem_iff.1 defined)
  obtain ⟨operation, -, planned, -⟩ := exists_planned_of_mem_codes covered inCodes
  obtain ⟨names, types, resolved, -, assembled⟩ := plan_eq_ok_iff.1 planned
  rw [assembled] at inside
  exact resolved.free name inside (ne_empty_of_mem_endpointReserved reserved) reserved

/-- Two of five operations are written; one of the others would define their names again. -/
theorem petShop_names_distinct :
    ∃ coverage, cover (.ofDocument .options petShop) ".models" petShop.operations = .ok coverage ∧
      coverage.codes.length = 2 ∧
      (endpointsModule coverage.codes).definedNames.Nodup ∧
      ∀ name ∈ (endpointsModule coverage.codes).definedNames,
        name ∉ (endpointsModule coverage.codes).importedNames := by
  obtain ⟨coverage, covered, shown⟩ := exists_cover_petShop
  have length := congrArg List.length shown
  rw [List.length_map] at length
  exact ⟨coverage, covered, length, endpointsModule_names_distinct covered⟩

end Bindery.Client

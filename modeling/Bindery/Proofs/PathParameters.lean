import Bindery.Proofs.Placeholders
import Bindery.Proofs.Requests

/-!
# Parameters that a request leaves out

A function takes every parameter of its operation, and its request reads those of the query, of
headers, forms and bodies wherever they are declared.  A parameter of the path is different: it is
read if the path has a place for its name.  Nothing compares the places of a path with the
parameters before, so a parameter without a place is taken and not sent.
-/

namespace Bindery.Client

open Bindery.Api Bindery.Code Bindery.Naming Bindery.Plan Bindery.Steps Bindery.Typing

/-! ## What the parts of a request read -/

section Reads

variable {plan : OperationPlan} {keywords : List (String × Expr)} {name : String}

/-- The value that is sent for a parameter reads its local, and beside it a helper at most. -/
theorem mem_reads_wireValue_iff {binding : Binding} (noHelper : name ≠ "format_collection") :
    name ∈ (wireValue binding).reads ↔ name = binding.name := by
  constructor
  · intro member
    exact (mem_reads_wireValue member).resolve_right fun helper => noHelper helper.1
  · rintro rfl
    exact name_mem_reads_wireValue binding

/-- The path of a request reads what the values of the parameters read that have a place in it. -/
theorem mem_reads_pathExpr_iff {path : String} {bindings : List Binding}
    (distinct : (bindings.map (·.parameter.name)).Nodup) :
    name ∈ (pathExpr path bindings).reads ↔
      ∃ binding ∈ bindings, binding.parameter.location = .path ∧
        HasPlaceholder path.toList binding.parameter.name.toList ∧
        name ∈ (wireValue binding).reads := by
  have fills := fills_pathSegments path distinct
  rcases pathExpr_cases path bindings with ⟨-, template⟩ | ⟨nothing, plain⟩
  · rw [template, Expr.reads_template, List.flatMap_map, List.mem_flatMap]
    constructor
    · rintro ⟨segment, member, inside⟩
      cases segment with
      | literal text => cases inside
      | filled binding =>
          obtain ⟨inBindings, isPath, place⟩ := fills.filled_mem_iff.1 member
          exact ⟨binding, inBindings, isPath, place, inside⟩
    · rintro ⟨binding, inBindings, isPath, place, inside⟩
      exact ⟨.filled binding, fills.filled_mem_iff.2 ⟨inBindings, isPath, place⟩, inside⟩
  · rw [plain, Expr.reads_text]
    refine iff_of_false List.not_mem_nil ?_
    rintro ⟨binding, inBindings, isPath, place, -⟩
    exact nothing binding (fills.filled_mem_iff.2 ⟨inBindings, isPath, place⟩)

theorem exists_reads_dictionary?_iff {location : Location} {bindings : List Binding} :
    (∃ value, dictionary? location bindings = some value ∧ name ∈ value.reads) ↔
      ∃ binding ∈ bindings, binding.parameter.location = location ∧
        name ∈ (wireValue binding).reads := by
  rw [dictionary?_eq]
  split
  · next nothing =>
      refine iff_of_false (by simp) ?_
      rintro ⟨binding, inBindings, isThere, -⟩
      have member : binding ∈ located location bindings :=
        List.mem_filter.2 ⟨inBindings, decide_eq_true isThere⟩
      rw [nothing] at member
      cases member
  · simp [located, List.mem_flatMap, and_assoc]

theorem exists_reads_body?_iff {bindings : List Binding} {body : Option Expr}
    (found : body? bindings = .ok body) :
    (∃ value, body = some value ∧ name ∈ value.reads) ↔
      ∃ binding ∈ bindings, binding.parameter.location = .body ∧ name = binding.name := by
  have values : ∀ value, body = some value ↔
      ∃ binding ∈ bindings, binding.parameter.location = .body ∧ .name binding.name = value := by
    intro value
    rw [← Option.mem_toList, toList_body? found]
    simp [located, and_assoc]
  simp only [values]
  constructor
  · rintro ⟨_, ⟨binding, inBindings, isBody, rfl⟩, member⟩
    exact ⟨binding, inBindings, isBody, List.mem_singleton.1 member⟩
  · rintro ⟨binding, inBindings, isBody, rfl⟩
    exact ⟨_, ⟨binding, inBindings, isBody, rfl⟩, List.mem_singleton_self _⟩

theorem exists_reads_keyword?_iff {key : String} {value : Option Expr} :
    (∃ entry ∈ keyword? key value, name ∈ entry.2.reads) ↔
      ∃ found, value = some found ∧ name ∈ found.reads := by
  cases value <;> simp [keyword?]

/-- The keyword arguments of a request read the locals of all parameters that are not in the path,
among the names that nothing else reads. -/
theorem exists_reads_requestKeywords_iff (found : requestKeywords plan = .ok keywords)
    (notOther : name ∉ otherNames plan) :
    (∃ entry ∈ keywords, name ∈ entry.2.reads) ↔
      ∃ binding ∈ plan.bindings, binding.parameter.location ≠ .path ∧ name = binding.name := by
  obtain ⟨body, bodyFound, rfl⟩ := map_eq_ok_iff.1 found
  have noHelper : name ≠ "format_collection" := by
    rintro rfl
    exact notOther (by simp [otherNames])
  have unread (answer : Option Mapped) (isAnswer : answer.toList ⊆ answerTypes plan) :
      ¬ ∃ value, answer.map (·.expr) = some value ∧ name ∈ value.reads := by
    rintro ⟨_, shown, member⟩
    obtain ⟨type, isType, rfl⟩ := Option.map_eq_some_iff.1 shown
    have known := isAnswer (Option.mem_toList.2 isType)
    exact notOther (List.mem_append_right _ (List.mem_flatMap_of_mem known member))
  have noReturn := unread plan.returnType (List.subset_append_left _ _)
  have noError := unread plan.errorType (List.subset_append_right _ _)
  simp only [List.mem_append, or_and_right, exists_or, exists_reads_keyword?_iff,
    exists_reads_dictionary?_iff, exists_reads_body?_iff bodyFound,
    mem_reads_wireValue_iff noHelper, noReturn, noError, or_false]
  constructor
  · rintro (((inPlace | inPlace) | inPlace) | inPlace) <;>
      obtain ⟨binding, inBindings, isThere, same⟩ := inPlace <;>
      exact ⟨binding, inBindings, by rw [isThere]; decide, same⟩
  · rintro ⟨binding, inBindings, notPath, same⟩
    cases isThere : binding.parameter.location with
    | path => exact absurd isThere notPath
    | query => exact .inl (.inl (.inl ⟨binding, inBindings, isThere, same⟩))
    | header => exact .inl (.inl (.inr ⟨binding, inBindings, isThere, same⟩))
    | form => exact .inl (.inr ⟨binding, inBindings, isThere, same⟩)
    | body => exact .inr ⟨binding, inBindings, isThere, same⟩

/-- The request of a plan reads a name that nothing else reads in its path or in its keyword
arguments. -/
theorem mem_reads_requestExpr_iff {isAsync : Bool} (notOther : name ∉ otherNames plan) :
    name ∈ (requestExpr plan keywords isAsync).reads ↔
      name ∈ (pathExpr plan.operation.path plan.bindings).reads ∨
        ∃ entry ∈ keywords, name ∈ entry.2.reads := by
  have noHelper : name ≠ requestHelper isAsync := by
    rintro rfl
    exact notOther (by cases isAsync <;> simp [otherNames, requestHelper])
  have noConfiguration : name ≠ configurationArgument := by
    rintro rfl
    exact notOther (by simp [otherNames, configurationArgument])
  have called : (requestExpr plan keywords isAsync).reads =
      (Expr.call (.name (requestHelper isAsync))
        [.name configurationArgument, .text (Text.lower plan.operation.method),
          pathExpr plan.operation.path plan.bindings] keywords).reads := by
    cases isAsync <;> rfl
  rw [called]
  simp [noHelper, noConfiguration]

end Reads

/-! ## What a request leaves out -/

/-- The path in the request that an expression sends, or waits for. -/
def requestPath? : Expr → Option Expr
  | .call _ [_, _, path] _ => some path
  | .await (.call _ [_, _, path] _) => some path
  | _ => none

@[simp] theorem requestPath?_requestExpr (plan : OperationPlan) (keywords : List (String × Expr))
    (isAsync : Bool) : requestPath? (requestExpr plan keywords isAsync) =
      some (pathExpr plan.operation.path plan.bindings) := by
  cases isAsync <;> rfl

/-- How a request reads the locals of a plan: those of the path's parameters in its path, if they
have a place there, and all the others somewhere. -/
structure ReadsLocals (plan : OperationPlan) (request path : Expr) : Prop where
  inPath : ∀ binding ∈ plan.bindings, binding.name ∈ path.reads ↔
    binding.parameter.location = .path ∧
      HasPlaceholder plan.operation.path.toList binding.parameter.name.toList
  inRequest : ∀ binding ∈ plan.bindings, binding.name ∈ request.reads ↔
    (binding.parameter.location = .path →
      HasPlaceholder plan.operation.path.toList binding.parameter.name.toList)

section Plans

variable {variant : Variant} {document : Document} {operation : Operation} {plan : OperationPlan}

/-- No local has the name of anything else that the functions of its operation read. -/
theorem not_mem_otherNames (planned : Plan.plan (.ofDocument variant document) operation = .ok plan)
    {binding : Binding} (member : binding ∈ plan.bindings) : binding.name ∉ otherNames plan := by
  obtain ⟨names, types, resolved, mapped, rfl⟩ := plan_eq_ok_iff.1 planned
  obtain ⟨field, inFields, rfl⟩ := List.mem_map.1 member
  obtain ⟨parameter, -, belongs⟩ :=
    exists_mem_of_forall₂ (fields_of_resolved resolved mapped).1 inFields
  intro isOther
  exact not_mem_of_memberName belongs.memberName_eq (otherNames_subset mapped names isOther)

theorem readsLocals_requestExpr
    (planned : Plan.plan (.ofDocument variant document) operation = .ok plan)
    {keywords : List (String × Expr)} (found : requestKeywords plan = .ok keywords)
    (isAsync : Bool) :
    ReadsLocals plan (requestExpr plan keywords isAsync)
      (pathExpr plan.operation.path plan.bindings) := by
  have distinct : (plan.bindings.map (·.parameter.name)).Nodup := by
    have names := (nodup_locals planned).2
    rwa [← map_parameter_bindings planned, List.map_map] at names
  -- Two locals of one name are the same, so a name that is read is read for its own parameter.
  have same {binding other : Binding} (member : binding ∈ plan.bindings)
      (isLocal : other ∈ plan.bindings) (named : binding.name = other.name) : binding = other :=
    List.inj_on_of_nodup_map (nodup_locals planned).1 member isLocal named
  have inPath : ∀ binding ∈ plan.bindings,
      binding.name ∈ (pathExpr plan.operation.path plan.bindings).reads ↔
        binding.parameter.location = .path ∧
          HasPlaceholder plan.operation.path.toList binding.parameter.name.toList := by
    intro binding member
    have noHelper : binding.name ≠ "format_collection" := by
      intro helper
      exact not_mem_otherNames planned member (by simp [helper, otherNames])
    simp only [mem_reads_pathExpr_iff distinct, mem_reads_wireValue_iff noHelper]
    constructor
    · rintro ⟨other, isLocal, isPath, place, named⟩
      cases same member isLocal named
      exact ⟨isPath, place⟩
    · rintro ⟨isPath, place⟩
      exact ⟨binding, member, isPath, place, rfl⟩
  refine ⟨inPath, ?_⟩
  intro binding member
  have notOther := not_mem_otherNames planned member
  rw [mem_reads_requestExpr_iff notOther, exists_reads_requestKeywords_iff found notOther,
    inPath binding member]
  constructor
  · rintro (⟨-, place⟩ | ⟨other, isLocal, notPath, named⟩) isPath
    · exact place
    · cases same member isLocal named
      exact absurd isPath notPath
  · intro places
    by_cases isPath : binding.parameter.location = .path
    · exact .inl ⟨isPath, places isPath⟩
    · exact .inr ⟨binding, member, isPath, rfl⟩

end Plans

variable {variant : Variant} {document : Document} {modelsModule : String} {coverage : Coverage}

/-- Both functions of every operation in a client read the local of a parameter of the path in the
path of their request, if the path has a place for it, and leave it out of the request if not.  They
read the locals of all other parameters. -/
theorem requests_read_placed_parameters
    (covered : cover (.ofDocument variant document) modelsModule document.operations =
      .ok coverage) :
    ∀ code ∈ coverage.codes, code.plan.operation ∈ document.operations ∧
      code.plan.bindings.map (·.parameter) = code.plan.operation.parameters ∧
      ∀ function ∈ [code.functions.sync, code.functions.async],
        ∃ request path, function.results = [request] ∧ requestPath? request = some path ∧
          ReadsLocals code.plan request path := by
  intro code inCodes
  obtain ⟨operation, inOperations, planned, made⟩ := exists_planned_of_mem_codes covered inCodes
  rw [operation_of_plan planned]
  refine ⟨inOperations, map_parameter_bindings planned, ?_⟩
  obtain ⟨functions, written, shape⟩ := OperationCode.make_eq_ok_iff.1 made
  obtain ⟨keywords, found, rfl⟩ := endpoint_eq_ok_iff.1 written
  have both : ∀ isAsync, ∃ request path,
      (endpointFunction code.plan keywords isAsync).results = [request] ∧
        requestPath? request = some path ∧ ReadsLocals code.plan request path := fun isAsync =>
    ⟨_, _, results_endpointFunction .., requestPath?_requestExpr ..,
      readsLocals_requestExpr planned found isAsync⟩
  rw [congrArg OperationCode.functions shape]
  exact List.forall_mem_cons.2
    ⟨both false, List.forall_mem_cons.2 ⟨both true, List.forall_mem_nil _⟩⟩

/-- An operation with two parameters of the path, of which one has another name in its place. -/
def nestedPlace : Document where
  operations := [{
    name := "getPet"
    path := "/shops/{shop}/pets/{{pet}}"
    parameters := [
      { name := "shop", location := .path, required := true },
      { name := "pet", location := .path, required := true },
      { name := "page", location := .query }] }]

/-- The parameter that has no place is left out, and the others are sent. -/
theorem nestedPlace_reads :
    ∃ coverage code request path,
      cover (.ofDocument .options nestedPlace) ".models" nestedPlace.operations = .ok coverage ∧
      code ∈ coverage.codes ∧ code.functions.sync.results = [request] ∧
      requestPath? request = some path ∧ ReadsLocals code.plan request path ∧
      "shop" ∈ path.reads ∧ "page" ∈ request.reads ∧ "pet" ∉ request.reads := by
  have first : (cover (.ofDocument .options nestedPlace) ".models"
      nestedPlace.operations).toOption.bind (fun coverage => coverage.codes.head?.map fun code =>
        code.functions.sync.results.map fun request =>
          ((requestPath? request).map Expr.reads, request.reads)) =
      some [(some ["shop"], ["request_sync", "configuration", "shop", "page"])] := by
    decide +kernel
  obtain ⟨coverage, code, covered, member, shown⟩ := exists_code_of_head? first
  obtain ⟨-, -, functions⟩ := requests_read_placed_parameters covered code member
  obtain ⟨request, path, sent, inRequest, reads⟩ := functions _ List.mem_cons_self
  rw [sent, List.map_singleton, inRequest] at shown
  obtain ⟨pathReads, requestReads⟩ := Prod.mk.inj (List.cons.inj shown).1
  refine ⟨coverage, code, request, path, covered, member, sent, inRequest, reads, ?_⟩
  rw [requestReads, Option.some.inj pathReads]
  decide

/-- An operation with a required parameter that its path has no place for. -/
def strayId : Document where
  operations := [{
    name := "listPets"
    path := "/pets"
    parameters := [{ name := "id", location := .path, required := true }] }]

/-- The operation gets its code, and its functions take the parameter and do not send it. -/
theorem strayId_left_out :
    ∃ coverage code binding,
      cover (.ofDocument .flat strayId) ".models" strayId.operations = .ok coverage ∧
      code ∈ coverage.codes ∧ binding ∈ code.plan.bindings ∧
      binding.parameter.location = .path ∧ binding.parameter.required = true ∧
      ∀ function ∈ [code.functions.sync, code.functions.async],
        binding.name ∈ function.arguments.names ∧ function.results.length = 1 ∧
          ∀ request ∈ function.results, binding.name ∉ request.reads := by
  have first : (cover (.ofDocument .flat strayId) ".models"
      strayId.operations).toOption.bind (fun coverage => coverage.codes.head?.map fun code =>
        decide (∃ binding ∈ code.plan.bindings,
          binding.parameter.location = .path ∧ binding.parameter.required = true ∧
          ∀ function ∈ [code.functions.sync, code.functions.async],
            binding.name ∈ function.arguments.names ∧ function.results.length = 1 ∧
              ∀ request ∈ function.results, binding.name ∉ request.reads)) = some true := by
    decide +kernel
  obtain ⟨coverage, code, covered, member, shown⟩ := exists_code_of_head? first
  obtain ⟨binding, isLocal, isPath, isRequired, leftOut⟩ := of_decide_eq_true shown
  exact ⟨coverage, code, binding, covered, member, isLocal, isPath, isRequired, leftOut⟩

end Bindery.Client

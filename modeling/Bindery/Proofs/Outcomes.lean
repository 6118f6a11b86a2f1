import Bindery.Proofs.Modules

/-!
# What becomes of each operation

A client is planned in one pass over the operations and written in a second pass over the plans,
and both passes leave operations out.  Here the two passes are seen as one: every operation has an
outcome at its own position, and what either pass gives is read off the outcomes.  An outcome
depends on the operation and on the plans before it, and on these only by the names they take.
-/

namespace Bindery.Plan

open Bindery.Api Bindery.Steps

/-! ## Names that are taken -/

/-- None of the names that a plan defines at the top of the module is defined by others. -/
def OperationPlan.Clear (plans : List OperationPlan) (plan : OperationPlan) : Prop :=
  ∀ earlier ∈ plans, ∀ name ∈ plan.names.moduleNames, name ∉ earlier.names.moduleNames

/-- A plan that takes no name of others takes none of fewer. -/
theorem OperationPlan.Clear.mono {fewer plans : List OperationPlan} {plan : OperationPlan}
    (clear : plan.Clear plans) (subset : fewer ⊆ plans) : plan.Clear fewer :=
  fun earlier before => clear earlier (subset before)

theorem owner?_eq_none_iff {plans : List OperationPlan} {name : String} :
    owner? plans name = none ↔ ∀ earlier ∈ plans, name ∉ earlier.names.moduleNames := by
  simp only [owner?]
  rw [Option.map_eq_none_iff, List.find?_eq_none]
  simp only [decide_eq_true_eq]

theorem clash?_eq_none_iff {plans : List OperationPlan} {plan : OperationPlan} :
    clash? plans plan = none ↔ plan.Clear plans := by
  simp only [clash?]
  simp only [List.findSome?_eq_none_iff, Option.map_eq_none_iff, owner?_eq_none_iff]
  constructor
  · intro clear earlier before name member
    exact clear name member earlier before
  · intro clear name member earlier before
    exact clear earlier before name member

/-- An operation is planned after others if it can be planned alone and takes none of their
names. -/
theorem planAfter_eq_ok_iff {setting : Setting} {plans : List OperationPlan}
    {operation : Operation} {plan : OperationPlan} :
    planAfter setting plans operation = .ok plan ↔
      Plan.plan setting operation = .ok plan ∧ plan.Clear plans := by
  simp only [planAfter]
  cases planned : Plan.plan setting operation with
  | error error => simp
  | ok found =>
      dsimp only
      cases clashes : clash? plans found with
      | none =>
          constructor
          · intro same
            cases same
            exact ⟨rfl, clash?_eq_none_iff.1 clashes⟩
          · exact And.left
      | some collision =>
          constructor
          · intro same
            cases same
          · rintro ⟨same, clear⟩
            cases same
            rw [clash?_eq_none_iff.2 clear] at clashes
            cases clashes

end Bindery.Plan

namespace Bindery.Client

open Bindery.Api Bindery.Code Bindery.Plan Bindery.Steps

/-! ## Outcomes -/

/-- What becomes of an operation: its code is written, or it fails to be planned, or its plan
fails to be written. -/
inductive Outcome where
  | written (code : OperationCode)
  | unplanned (failure : Failure)
  | unwritten (plan : OperationPlan) (failure : Failure)

namespace Outcome

/-- The code that an operation contributes. -/
def code? : Outcome → Option OperationCode
  | written code => some code
  | unplanned _ | unwritten .. => none

/-- The plan of an operation. It takes names also if it is not written. -/
def plan? : Outcome → Option OperationPlan
  | written code => some code.plan
  | unplanned _ => none
  | unwritten plan _ => some plan

/-- The failure to plan an operation. -/
def unplanned? : Outcome → Option Failure
  | unplanned failure => some failure
  | written _ | unwritten .. => none

/-- The failure to write an operation. -/
def unwritten? : Outcome → Option Failure
  | unwritten _ failure => some failure
  | written _ | unplanned _ => none

/-- The failure of an operation. -/
def failure? : Outcome → Option Failure
  | written _ => none
  | unplanned failure | unwritten _ failure => some failure

/-- Whether an operation is written. -/
def isWritten (outcome : Outcome) : Bool := outcome.code?.isSome

/-- The items that an operation contributes to the endpoints module. -/
def items (outcome : Outcome) : List Item := outcome.code?.toList.flatMap (·.items)

/-- The imports that an operation contributes to the endpoints module. -/
def imports (outcome : Outcome) : Imports := .all (outcome.code?.toList.map (·.imports))

/-- The names that an operation contributes to those that the endpoints module exports. -/
def exported (outcome : Outcome) : List String := endpointNames outcome.code?.toList

/-- What becomes of an operation with a plan. -/
def ofPlan (modelsModule : String) (plan : OperationPlan) : Outcome :=
  match OperationCode.make modelsModule plan with
  | .ok code => written code
  | .error fault => unwritten plan ⟨plan.operation.name, fault⟩

end Outcome

/-- What becomes of an operation after others with plans. An error that does not concern the
operation alone ends the run. -/
def outcomeAfter (setting : Setting) (modelsModule : String) (plans : List OperationPlan)
    (operation : Operation) : Except PlanError Outcome :=
  match planAfter setting plans operation with
  | .ok plan => .ok (.ofPlan modelsModule plan)
  | .error error =>
      match error.fault? with
      | some fault => .ok (.unplanned ⟨operation.name, fault⟩)
      | none => .error error

/-- What becomes of operations one after the other, after others with plans. -/
def outcomesAfter (setting : Setting) (modelsModule : String) :
    List OperationPlan → List Operation → Except PlanError (List Outcome)
  | _, [] => .ok []
  | plans, operation :: rest => do
      let outcome ← outcomeAfter setting modelsModule plans operation
      let more ← outcomesAfter setting modelsModule (plans ++ outcome.plan?.toList) rest
      return outcome :: more

/-- What becomes of the operations of a description. -/
def outcomes (setting : Setting) (modelsModule : String) (operations : List Operation) :
    Except PlanError (List Outcome) :=
  outcomesAfter setting modelsModule [] operations

/-- A description whose operations are written, have the name of another, or have two bodies. -/
def petShop : Document where
  title := "Pet shop"
  baseUrl := some "https://pets.test"
  schemas := [("Pet", { properties := [("id", { type := some "integer" })] })]
  operations := [
    { name := "storePet", method := "put", path := "/pets/{id}"
      parameters := [
        { name := "id", location := .path, required := true, type := { type := some "integer" } },
        { name := "pet", location := .body, required := true, type := { ref := some "Pet" } }]
      returnType := some { ref := some "Pet" } },
    { name := "move-pet", method := "post"
      parameters := [
        { name := "pet", location := .body }, { name := "place", location := .body }] },
    { name := "storePet", method := "patch" },
    { name := "move_pet" },
    { name := "listPets", path := "/pets" }]

/-- The name of an operation that is not written is taken all the same. -/
example : ((outcomes (.ofDocument .options petShop) ".models" petShop.operations).toOption.map
    fun results => results.map Outcome.isWritten) = some [true, false, false, false, true] := by
  decide +kernel

theorem exists_cover_petShop :
    ∃ coverage, cover (.ofDocument .options petShop) ".models" petShop.operations = .ok coverage ∧
      coverage.codes.map (fun code => (code.plan.usesOptions, code.plan.names.members)) =
        [(true, ["id", "pet"]), (false, [])] := by
  refine toOption_map_eq_some_iff.1 ?_
  decide +kernel

variable {setting : Setting} {modelsModule : String}

@[simp] theorem plan?_ofPlan (plan : OperationPlan) :
    (Outcome.ofPlan modelsModule plan).plan? = some plan := by
  simp only [Outcome.ofPlan]
  split
  · next code made =>
      obtain ⟨functions, -, rfl⟩ := OperationCode.make_eq_ok_iff.1 made
      rfl
  · rfl

@[simp] theorem unplanned?_ofPlan (plan : OperationPlan) :
    (Outcome.ofPlan modelsModule plan).unplanned? = none := by
  simp only [Outcome.ofPlan]
  split <;> rfl

/-! ## One pass instead of two -/

/-- One step of planning is read off the outcome of its operation. -/
theorem add_eq_map_outcomeAfter (modelsModule : String) (report : Report)
    (operation : Operation) :
    report.add setting operation =
      (outcomeAfter setting modelsModule report.plans operation).map fun outcome =>
        ⟨report.plans ++ outcome.plan?.toList, report.failures ++ outcome.unplanned?.toList⟩ := by
  simp only [Report.add, outcomeAfter]
  cases planAfter setting report.plans operation with
  | ok plan => simp [Except.map]
  | error error =>
      dsimp only
      cases error.fault? with
      | none => rfl
      | some fault => simp [Except.map, Outcome.plan?, Outcome.unplanned?]

/-- The run of planning is read off the outcomes of its operations. -/
theorem foldlM_add_eq_map_outcomesAfter (modelsModule : String) (report : Report)
    (operations : List Operation) :
    operations.foldlM (Report.add setting) report =
      (outcomesAfter setting modelsModule report.plans operations).map fun results =>
        ⟨report.plans ++ results.filterMap Outcome.plan?,
          report.failures ++ results.filterMap Outcome.unplanned?⟩ := by
  induction operations generalizing report with
  | nil => simp [outcomesAfter, Except.map, pure, Except.pure]
  | cons operation rest ih =>
      rw [List.foldlM_cons, add_eq_map_outcomeAfter modelsModule, outcomesAfter]
      cases outcomeAfter setting modelsModule report.plans operation with
      | error error => rfl
      | ok outcome =>
          simp only [Except.map, bind, Except.bind]
          rw [ih]
          cases outcomesAfter setting modelsModule (report.plans ++ outcome.plan?.toList) rest with
          | error error => rfl
          | ok more =>
              simp only [Except.map, pure, Except.pure, List.append_assoc]
              cases outcome <;> rfl

/-- What is known of the outcome of an operation at its position.  The plan of one that is written
or fails to be written is its plan when nothing is planned before. -/
inductive Settles (setting : Setting) (modelsModule : String) (operation : Operation) :
    Outcome → Prop where
  | written {code : OperationCode} :
      plan setting operation = .ok code.plan →
      OperationCode.make modelsModule code.plan = .ok code →
      Settles setting modelsModule operation (.written code)
  | unplanned {fault : Fault} :
      Settles setting modelsModule operation (.unplanned ⟨operation.name, fault⟩)
  | unwritten {plan : OperationPlan} {fault : Fault} :
      Plan.plan setting operation = .ok plan →
      OperationCode.make modelsModule plan = .error fault →
      Settles setting modelsModule operation (.unwritten plan ⟨operation.name, fault⟩)

theorem settles_of_outcomeAfter {plans : List OperationPlan} {operation : Operation}
    {outcome : Outcome} (done : outcomeAfter setting modelsModule plans operation = .ok outcome) :
    Settles setting modelsModule operation outcome := by
  simp only [outcomeAfter] at done
  split at done
  · next plan planned =>
      cases done
      have planned := (planAfter_eq_ok_iff.1 planned).1
      simp only [Outcome.ofPlan]
      split
      · next code made =>
          obtain ⟨functions, -, rfl⟩ := OperationCode.make_eq_ok_iff.1 made
          exact .written planned made
      · next fault failed =>
          rw [operation_of_plan planned]
          exact .unwritten planned failed
  · split at done
    · cases done
      exact .unplanned
    · cases done

/-- Every operation has an outcome at its own position. -/
theorem forall₂_settles {plans : List OperationPlan} {operations : List Operation}
    {results : List Outcome}
    (done : outcomesAfter setting modelsModule plans operations = .ok results) :
    List.Forall₂ (Settles setting modelsModule) operations results := by
  induction operations generalizing plans results with
  | nil =>
      cases done
      exact .nil
  | cons operation rest ih =>
      obtain ⟨outcome, first, done⟩ := bind_eq_ok_iff.1 done
      obtain ⟨more, later, done⟩ := bind_eq_ok_iff.1 done
      cases done
      exact .cons (settles_of_outcomeAfter first) (ih later)

/-- Writing the plans is read off the outcomes. -/
theorem writeAll_filterMap_plan? {operations : List Operation} {results : List Outcome}
    (settled : List.Forall₂ (Settles setting modelsModule) operations results) :
    writeAll modelsModule (results.filterMap Outcome.plan?) =
      (results.filterMap Outcome.code?, results.filterMap Outcome.unwritten?) := by
  induction settled with
  | nil => rfl
  | cons first _ ih =>
      cases first with
      | @written code _ made =>
          change writeAll modelsModule (code.plan :: _) = _
          rw [writeAll, ih, made]
          rfl
      | unplanned => exact ih
      | @unwritten plan _ planned failed =>
          change writeAll modelsModule (plan :: _) = _
          rw [writeAll, ih, failed, operation_of_plan planned]
          rfl

/-- What a client has for operations whose outcomes are known. -/
def Coverage.ofOutcomes (results : List Outcome) : Coverage where
  codes := results.filterMap Outcome.code?
  failures := results.filterMap Outcome.unplanned? ++ results.filterMap Outcome.unwritten?

/-- The two passes over the operations of a description give what their outcomes say. -/
theorem cover_eq_map_outcomes (operations : List Operation) :
    cover setting modelsModule operations =
      (outcomes setting modelsModule operations).map Coverage.ofOutcomes := by
  simp only [cover, planAll, outcomes]
  rw [foldlM_add_eq_map_outcomesAfter modelsModule]
  simp only [Report.empty, List.nil_append]
  cases done : outcomesAfter setting modelsModule [] operations with
  | error error => rfl
  | ok results =>
      simp only [Except.map, writeAll_filterMap_plan? (forall₂_settles done)]
      rfl

/-! ## What operations contribute -/

theorem flatMap_items (results : List Outcome) :
    (Coverage.ofOutcomes results).codes.flatMap OperationCode.items =
      results.flatMap Outcome.items := by
  simp only [Coverage.ofOutcomes]
  rw [List.filterMap_eq_flatMap_toList, List.flatMap_assoc]
  rfl

theorem all_imports (results : List Outcome) :
    Imports.all ((Coverage.ofOutcomes results).codes.map OperationCode.imports) =
      .all (results.map Outcome.imports) := by
  simp only [Coverage.ofOutcomes]
  rw [List.filterMap_eq_flatMap_toList, List.map_flatMap, Imports.all_flatMap]
  rfl

theorem flatMap_exported (results : List Outcome) :
    endpointNames (Coverage.ofOutcomes results).codes = results.flatMap Outcome.exported := by
  simp only [Coverage.ofOutcomes, endpointNames]
  rw [List.filterMap_eq_flatMap_toList, List.flatMap_assoc]
  rfl

/-- An operation defines the names that it exports. -/
theorem Settles.definedNames_perm {operation : Operation} {outcome : Outcome}
    (settled : Settles setting modelsModule operation outcome) :
    (outcome.items.filterMap Item.definedName?).Perm outcome.exported := by
  cases settled with
  | @written code planned made =>
      have items : (Outcome.written code).items = code.items := List.flatMap_singleton ..
      have exported : (Outcome.written code).exported = code.plan.names.moduleNames :=
        List.flatMap_singleton ..
      rw [items, exported]
      exact OperationCode.definedNames_perm planned made
  | unplanned => exact .nil
  | unwritten => exact .nil

/-- The failures of a client are those of its operations, each once. -/
theorem failures_ofOutcomes_perm (results : List Outcome) :
    (Coverage.ofOutcomes results).failures.Perm (results.filterMap Outcome.failure?) := by
  simp only [Coverage.ofOutcomes]
  induction results with
  | nil => rfl
  | cons outcome rest ih =>
      cases outcome with
      | written code => exact ih
      | unplanned failure => exact ih.cons failure
      | unwritten plan failure => exact List.perm_middle.trans (ih.cons failure)

/-- Every outcome is either written or a failure. -/
theorem length_code?_add_length_failure? (results : List Outcome) :
    (results.filterMap Outcome.code?).length + (results.filterMap Outcome.failure?).length =
      results.length := by
  induction results with
  | nil => rfl
  | cons outcome rest ih =>
      cases outcome <;>
        simp only [List.filterMap_cons, Outcome.code?, Outcome.failure?, List.length_cons] <;>
        omega

/-! ## Operations without those that fail -/

/-- The operations that are written, given the outcomes of all of them. -/
def survivors (operations : List Operation) (results : List Outcome) : List Operation :=
  ((operations.zip results).filter (·.2.isWritten)).map (·.1)

@[simp] theorem survivors_cons (operation : Operation) (rest : List Operation)
    (outcome : Outcome) (more : List Outcome) :
    survivors (operation :: rest) (outcome :: more) =
      if outcome.isWritten then operation :: survivors rest more else survivors rest more := by
  simp only [survivors]
  rw [List.zip_cons_cons, List.filter_cons]
  split <;> rfl

/-- An operation that is written after others is written in the same way after fewer. -/
theorem outcomeAfter_written_mono {fewer plans : List OperationPlan} {operation : Operation}
    {code : OperationCode} (subset : fewer ⊆ plans)
    (done : outcomeAfter setting modelsModule plans operation = .ok (.written code)) :
    outcomeAfter setting modelsModule fewer operation = .ok (.written code) := by
  simp only [outcomeAfter] at done ⊢
  cases planned : planAfter setting plans operation with
  | error error =>
      rw [planned] at done
      dsimp only at done
      split at done <;> cases done
  | ok plan =>
      obtain ⟨alone, clear⟩ := planAfter_eq_ok_iff.1 planned
      rw [planned] at done
      rw [planAfter_eq_ok_iff.2 ⟨alone, clear.mono subset⟩]
      exact done

/-- Without the operations that fail, the others are written in the same way.  The plans that go
before may be fewer too, as those of operations that fail to be written are. -/
theorem outcomesAfter_survivors {fewer plans : List OperationPlan} {operations : List Operation}
    {results : List Outcome} (subset : fewer ⊆ plans)
    (done : outcomesAfter setting modelsModule plans operations = .ok results) :
    outcomesAfter setting modelsModule fewer (survivors operations results) =
      .ok (results.filter Outcome.isWritten) := by
  induction operations generalizing fewer plans results with
  | nil =>
      cases done
      rfl
  | cons operation rest ih =>
      obtain ⟨outcome, first, done⟩ := bind_eq_ok_iff.1 done
      obtain ⟨more, later, done⟩ := bind_eq_ok_iff.1 done
      cases done
      rw [survivors_cons]
      cases outcome with
      | written code =>
          have grown : fewer ++ [code.plan] ⊆ plans ++ [code.plan] :=
            List.append_subset.2 ⟨List.subset_append_of_subset_left _ subset,
              List.subset_append_right ..⟩
          refine bind_eq_ok_iff.2 ⟨_, outcomeAfter_written_mono subset first, ?_⟩
          exact bind_eq_ok_iff.2 ⟨_, ih grown later, rfl⟩
      | unplanned failure =>
          exact ih (List.subset_append_of_subset_left _ subset) later
      | unwritten plan failure =>
          exact ih (List.subset_append_of_subset_left _ subset) later

/-- A client for the operations that are written has the same code and no failures. -/
theorem ofOutcomes_filter_isWritten (results : List Outcome) :
    Coverage.ofOutcomes (results.filter Outcome.isWritten) =
      ⟨(Coverage.ofOutcomes results).codes, []⟩ := by
  simp only [Coverage.ofOutcomes]
  induction results with
  | nil => rfl
  | cons outcome rest ih =>
      obtain ⟨codes, failures⟩ := Coverage.mk.inj ih
      cases outcome with
      | written code => exact congrArg₂ Coverage.mk (congrArg (code :: ·) codes) failures
      | unplanned failure => exact ih
      | unwritten plan failure => exact ih

end Bindery.Client

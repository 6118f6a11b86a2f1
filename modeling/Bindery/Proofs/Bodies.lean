import Bindery.Proofs.Alignment
import Bindery.Proofs.Verdicts

/-!
# Operations with several bodies

A request has one body at most.  Planning does not look at requests, so an operation with more than
one parameter in the body is planned like any other, and only when its code is to be written does it
turn out that there is none.  Nothing else keeps a plan from being written: of the operations that
are planned, those with several bodies fail and all others are covered.
-/

namespace Bindery.Api

/-- The names of the parameters that are sent as the body. -/
def Operation.bodies (operation : Operation) : List String :=
  (operation.parameters.filter (·.location = .body)).map (·.name)

/-- Whether the request of an operation would have several bodies. -/
def Operation.hasSeveralBodies (operation : Operation) : Bool := 1 < operation.bodies.length

end Bindery.Api

namespace Bindery.Plan

open Bindery.Api

/-- The locals of a plan hold the parameters of its operation, in their order. -/
theorem map_parameter_bindings {setting : Setting} {operation : Operation} {plan : OperationPlan}
    (planned : Plan.plan setting operation = .ok plan) :
    plan.bindings.map (·.parameter) = operation.parameters := by
  obtain ⟨names, types, resolved, mapped, rfl⟩ := plan_eq_ok_iff.1 planned
  have fields := (fields_of_resolved resolved mapped).1
  have same : List.Forall₂ (· = ·) operation.parameters
      ((fieldsOf names.members operation.parameters types.parameters).map (·.parameter)) :=
    List.forall₂_map_right_iff.2 (fields.imp fun _ _ belongs => belongs.parameter_eq.symm)
  rw [List.forall₂_eq_eq_eq] at same
  simp only [OperationPlan.assemble, List.map_map]
  exact same.symm

end Bindery.Plan

namespace Bindery.Client

open Bindery.Api Bindery.Code Bindery.Plan Bindery.Steps

/-- The fault of an operation with several bodies. -/
def severalBodies (operation : Operation) : Fault :=
  .endpoint operation.name (some operation.method) (some operation.path)
    (some ⟨"ValueError", some (SeveralBodies.message ⟨operation.bodies⟩)⟩)

/-- The failure of an operation with several bodies. -/
def bodiesFailure (plan : OperationPlan) : Failure :=
  ⟨plan.operation.name, severalBodies plan.operation⟩

variable {setting : Setting} {modelsModule : String} {operation : Operation} {plan : OperationPlan}

/-- The locals for a location hold the parameters there, in their order. -/
theorem map_name_located (planned : Plan.plan setting operation = .ok plan) (location : Location) :
    (located location plan.bindings).map (·.parameter.name) =
      (operation.parameters.filter (·.location = location)).map (·.name) := by
  simp only [located]
  rw [← map_parameter_bindings planned, List.filter_map, List.map_map]
  rfl

/-- A request cannot be expressed if it has several bodies, and only then. -/
theorem requestKeywords_eq_error_iff (planned : Plan.plan setting operation = .ok plan)
    {error : SeveralBodies} :
    requestKeywords plan = .error error ↔
      operation.hasSeveralBodies = true ∧ error = ⟨operation.bodies⟩ := by
  have bodies : operation.bodies = (located .body plan.bindings).map (·.parameter.name) :=
    (map_name_located planned .body).symm
  simp only [requestKeywords, Operation.hasSeveralBodies]
  rw [map_eq_error_iff, bodies]
  simp only [body?]
  cases located .body plan.bindings with
  | nil => simp
  | cons first rest =>
      cases rest with
      | nil => simp
      | cons second rest => simp [eq_comm]

/-- The functions of a plan cannot be written if its request has several bodies, and only then. -/
theorem endpoint_eq_error_iff (planned : Plan.plan setting operation = .ok plan) {fault : Fault} :
    endpoint modelsModule plan = .error fault ↔
      operation.hasSeveralBodies = true ∧ fault = severalBodies operation := by
  have same := operation_of_plan planned
  simp only [endpoint]
  cases keywords : requestKeywords plan with
  | error error =>
      obtain ⟨several, rfl⟩ := (requestKeywords_eq_error_iff planned).1 keywords
      simp only [same, several, severalBodies, Except.error.injEq, true_and]
      exact eq_comm
  | ok keywords =>
      have one : operation.hasSeveralBodies ≠ true := by
        intro several
        have failed := (requestKeywords_eq_error_iff planned).2 ⟨several, rfl⟩
        rw [keywords] at failed
        cases failed
      simp [one]

/-- A plan is not written if its request has several bodies, and only then. -/
theorem make_eq_error_iff (planned : Plan.plan setting operation = .ok plan) {fault : Fault} :
    OperationCode.make modelsModule plan = .error fault ↔
      operation.hasSeveralBodies = true ∧ fault = severalBodies operation := by
  simp only [OperationCode.make]
  rw [map_eq_error_iff]
  exact endpoint_eq_error_iff planned

/-- Of plans those are written whose operations have at most one body, and each of the others is
reported. -/
theorem writeAll_eq_filter (modelsModule : String) {plans : List OperationPlan}
    (planned : ∀ plan ∈ plans, Plan.plan setting plan.operation = .ok plan) :
    (writeAll modelsModule plans).1.map (·.plan) =
        plans.filter (! ·.operation.hasSeveralBodies) ∧
      (writeAll modelsModule plans).2 =
        (plans.filter (·.operation.hasSeveralBodies)).map bodiesFailure := by
  induction plans with
  | nil => exact ⟨rfl, rfl⟩
  | cons plan rest ih =>
      obtain ⟨here, later⟩ := List.forall_mem_cons.1 planned
      obtain ⟨codes, failures⟩ := ih later
      rw [writeAll]
      cases made : OperationCode.make modelsModule plan with
      | ok code =>
          have one : plan.operation.hasSeveralBodies = false := by
            rw [← Bool.not_eq_true]
            intro several
            rw [(make_eq_error_iff here).2 ⟨several, rfl⟩] at made
            cases made
          obtain ⟨functions, -, rfl⟩ := OperationCode.make_eq_ok_iff.1 made
          rw [List.filter_cons_of_pos (by rw [one]; rfl), List.filter_cons_of_neg (by simp [one])]
          exact ⟨congrArg (plan :: ·) codes, failures⟩
      | error fault =>
          obtain ⟨several, rfl⟩ := (make_eq_error_iff here).1 made
          rw [List.filter_cons_of_neg (by simp [several]),
            List.filter_cons_of_pos (by simp [several])]
          exact ⟨codes, congrArg (bodiesFailure plan :: ·) failures⟩

/-- What a client has in terms of the report on its operations: code for the plans with at most one
body, and failures for the others beside those of planning. -/
theorem exists_report_of_cover {operations : List Operation} {coverage : Coverage}
    (covered : cover setting modelsModule operations = .ok coverage) :
    ∃ report, planAll setting operations = .ok report ∧
      coverage.codes.map (·.plan) = report.plans.filter (! ·.operation.hasSeveralBodies) ∧
      coverage.failures = report.failures ++
        (report.plans.filter (·.operation.hasSeveralBodies)).map bodiesFailure := by
  obtain ⟨report, done, rfl⟩ := map_eq_ok_iff.1 covered
  obtain ⟨codes, failures⟩ := writeAll_eq_filter modelsModule
    fun plan member => ((planned_of_planAll done).1 plan member).2
  exact ⟨report, done, codes, congrArg (report.failures ++ ·) failures⟩

end Bindery.Client

import Bindery.Proofs.Bodies
import Bindery.Proofs.Definitions
import Bindery.Proofs.Runs

/-!
# Operations that others give way to

An operation that defines a name of an earlier one is left out in favour of it.  The earlier one has
been planned by then; whether it is written is only found out later.  So a name that an operation
lost is defined in the client after all, unless the operation that won it has several bodies: then
the client has neither of the two.
-/

namespace Bindery.Plan

open Bindery.Api Bindery.Steps

/-! ## What a collision is about -/

/-- What a name collides with can be told from the wording. -/
theorem Conflict.message_eq_iff {conflict : Conflict} {owner : String} :
    conflict.message = "a name of operation '" ++ owner ++ "'" ↔ conflict = .operation owner := by
  constructor
  · intro same
    have letters := congrArg String.toList same
    cases conflict with
    | reserved =>
        change "a reserved module-level name".toList = _ at letters
        simp at letters
    | parameter name =>
        change ("another parameter of the same operation ('" ++ name ++ "')").toList = _ at letters
        simp at letters
    | operation name =>
        change ("a name of operation '" ++ name ++ "'").toList = _ at letters
        simp only [String.toList_append, List.append_cancel_left_eq,
          List.append_cancel_right_eq] at letters
        rw [String.toList_inj.1 letters]
  · rintro rfl
    rfl

namespace Names

theorem resolveMembers_collision {reserved : List String} {operation : String}
    {taken : List String} {parameters : List Parameter} {collision : Collision}
    (failed : resolveMembers reserved operation taken parameters = .error (.collision collision)) :
    ∃ name, collision.conflict = .parameter name := by
  induction parameters generalizing taken with
  | nil => cases failed
  | cons parameter rest ih =>
      rw [resolveMembers] at failed
      split at failed
      · cases failed
      · split at failed
        · cases failed
          exact ⟨_, rfl⟩
        · exact ih (map_eq_error_iff.1 failed)

/-- Names of one operation do not collide with those of another. -/
theorem resolve_collision {reserved : List String} {operation : Operation} {usesOptions : Bool}
    {collision : Collision}
    (failed : resolve reserved operation usesOptions = .error (.collision collision))
    (owner : String) : collision.conflict ≠ .operation owner := by
  simp only [resolve] at failed
  split at failed
  · cases failed
  · split at failed
    · cases failed
      rintro ⟨⟩
    · obtain ⟨name, same⟩ := resolveMembers_collision (map_eq_error_iff.1 failed)
      rw [same]
      rintro ⟨⟩

end Names

/-- The fault of an operation that gives way to another: a name that both define. -/
def gaveWay (operation identifier owner : String) : Fault :=
  .nameCollision operation identifier ("a name of operation '" ++ owner ++ "'")

variable {setting : Setting}

/-- An operation on its own does not give way. -/
theorem fault?_ne_gaveWay {operation : Operation} {error : PlanError}
    (failed : Plan.plan setting operation = .error error) (loser identifier owner : String) :
    error.fault? ≠ some (gaveWay loser identifier owner) := by
  intro reported
  cases plan_eq_error_iff.1 failed with
  | nameless => cases reported
  | @collision collision unresolved =>
      simp only [PlanError.fault?, gaveWay, Option.some.injEq, Fault.nameCollision.injEq]
        at reported
      exact Names.resolve_collision unresolved owner (Conflict.message_eq_iff.1 reported.2.2)
  | unmappable => cases reported

/-- An operation that gives way does so to a plan that defines the name. -/
theorem exists_owner_of_gaveWay {operations : List Operation} {report : Report}
    (done : planAll setting operations = .ok report) {failure : Failure}
    (member : failure ∈ report.failures) {loser identifier owner : String}
    (fault : failure.fault = gaveWay loser identifier owner) :
    ∃ plan ∈ report.plans, plan.operation.name = owner ∧ identifier ∈ plan.names.moduleNames := by
  obtain ⟨verdicts, chosen, rfl⟩ := exists_chosen_of_planAll done
  obtain ⟨verdict, inVerdicts, found⟩ := List.mem_filterMap.1 member
  obtain ⟨accepted, known, operation, -, judged⟩ := chosen.exists_judged inVerdicts
  cases judged with
  | accepted => cases found
  | failed failed reported =>
      cases found
      cases fault
      exact absurd reported (fault?_ne_gaveWay failed loser identifier owner)
  | @taken _ winner _ _ name _ _ _ inAccepted defines =>
      cases found
      simp only [gaveWay, Fault.nameCollision.injEq] at fault
      obtain ⟨-, rfl, wording⟩ := fault
      have same : Conflict.operation winner.operation.name = .operation owner :=
        Conflict.message_eq_iff.1 wording
      cases same
      exact ⟨winner, known inAccepted, rfl, defines⟩

end Bindery.Plan

namespace Bindery.Client

open Bindery.Plan

/-- The code of an operation in a client defines the names that its plan claims. -/
theorem mem_definedNames_iff {setting : Setting} {modelsModule : String}
    {operations : List Api.Operation} {coverage : Coverage}
    (covered : cover setting modelsModule operations = .ok coverage) {code : OperationCode}
    (member : code ∈ coverage.codes) {name : String} :
    name ∈ code.definedNames ↔ name ∈ code.plan.names.moduleNames := by
  obtain ⟨operation, -, planned, made⟩ := exists_planned_of_mem_codes covered member
  exact (OperationCode.definedNames_perm planned made).mem_iff

end Bindery.Client

namespace Bindery.Run

open Bindery.Api Bindery.Client Bindery.Code Bindery.Files Bindery.Plan Bindery.Steps

variable {compiler : Compiler} {settings : Settings} {document : Document} {tree after : Tree}
  {result : Result}

/-- Every operation that gives way does so to one that defines the name and was planned.  That one
is in the client unless it has several bodies, and then it is reported, too. -/
theorem owner_written_iff
    (done : (generateFrom compiler settings document).Gives tree result after) :
    ∃ coverage, coverageOf settings document = .ok coverage ∧
      result.failures = coverage.failures ∧
      WritesFiles compiler settings document (endpointsModule coverage.codes)
        (endpointNames coverage.codes) tree result.files after ∧
      ∀ failure ∈ result.failures, ∀ loser identifier owner,
        failure.fault = gaveWay loser identifier owner →
        ∃ plan, plan.operation ∈ document.operations ∧ plan.operation.name = owner ∧
          Plan.plan (.ofDocument settings.variant document) plan.operation = .ok plan ∧
          identifier ∈ plan.names.moduleNames ∧
          ((∃ code ∈ coverage.codes, code.plan.operation.name = owner ∧
              identifier ∈ code.definedNames) ↔
            plan.operation.hasSeveralBodies = false) ∧
          (plan.operation.hasSeveralBodies = true → bodiesFailure plan ∈ result.failures) := by
  obtain ⟨coverage, covered, failures, written⟩ := gives_generateFrom done
  obtain ⟨report, planned, codes, reported⟩ := exists_report_of_cover covered
  refine ⟨coverage, covered, failures, written, ?_⟩
  rw [failures, reported]
  intro failure member loser identifier owner fault
  obtain ⟨ofOperations, apart⟩ := planned_of_planAll planned
  have inReport : failure ∈ report.failures := by
    refine (List.mem_append.1 member).resolve_right fun skipped => ?_
    obtain ⟨plan, -, rfl⟩ := List.mem_map.1 skipped
    cases fault
  obtain ⟨plan, inPlans, named, defines⟩ := exists_owner_of_gaveWay planned inReport fault
  obtain ⟨inDocument, alone⟩ := ofOperations plan inPlans
  refine ⟨plan, inDocument, named, alone, defines, ⟨?_, ?_⟩, ?_⟩
  · rintro ⟨code, inCodes, -, defined⟩
    obtain ⟨alsoInPlans, one⟩ := List.mem_filter.1 (codes ▸ List.mem_map_of_mem inCodes)
    have same : code.plan = plan := apart code.plan alsoInPlans plan inPlans identifier
      ((mem_definedNames_iff covered inCodes).1 defined) defines
    rw [same] at one
    simpa using one
  · intro one
    have kept : plan ∈ report.plans.filter (! ·.operation.hasSeveralBodies) :=
      List.mem_filter.2 ⟨inPlans, by simp [one]⟩
    rw [← codes] at kept
    obtain ⟨code, inCodes, rfl⟩ := List.mem_map.1 kept
    exact ⟨code, inCodes, named, (mem_definedNames_iff covered inCodes).2 defines⟩
  · intro several
    refine List.mem_append_right _ (List.mem_map_of_mem ?_)
    exact List.mem_filter.2 ⟨inPlans, several⟩

/-- The second operation that is called storePet gives way to the first, which is in the client. -/
theorem petShop_owner_written :
    ∃ result after coverage, (generateFrom .strict shopSettings petShop).Gives .empty result after ∧
      coverageOf shopSettings petShop = .ok coverage ∧
      ⟨"storePet", gaveWay "storePet" "storePet" "storePet"⟩ ∈ result.failures ∧
      ∃ code ∈ coverage.codes, code.plan.operation.name = "storePet" ∧
        "storePet" ∈ code.definedNames := by
  obtain ⟨result, after, done, -⟩ := exists_gives_petShop
  obtain ⟨coverage, covered, failures, -, owners⟩ := owner_written_iff done
  have reported : (coverageOf shopSettings petShop).toOption.map (fun coverage =>
      decide (⟨"storePet", gaveWay "storePet" "storePet" "storePet"⟩ ∈ coverage.failures)) =
        some true := by
    decide +kernel
  rw [covered] at reported
  have member : ⟨"storePet", gaveWay "storePet" "storePet" "storePet"⟩ ∈ result.failures :=
    failures ▸ of_decide_eq_true (Option.some.inj reported)
  have one : ∀ operation ∈ petShop.operations, operation.name = "storePet" →
      operation.hasSeveralBodies = false := by
    decide +kernel
  obtain ⟨plan, inDocument, named, -, -, emitted, -⟩ := owners _ member _ _ _ rfl
  exact ⟨result, after, coverage, done, covered, member,
    emitted.2 (one plan.operation inDocument named)⟩

/-- The operation that is called move_pet gives way to one that is not in the client. -/
theorem movePet_given_up :
    ∃ result after coverage, (generateFrom .strict shopSettings petShop).Gives .empty result after ∧
      coverageOf shopSettings petShop = .ok coverage ∧
      result.failures = coverage.failures ∧
      ⟨"move_pet", gaveWay "move_pet" "move_pet" "move-pet"⟩ ∈ result.failures ∧
      ¬ ∃ code ∈ coverage.codes, code.plan.operation.name = "move-pet" := by
  obtain ⟨result, after, done, -⟩ := exists_gives_petShop
  obtain ⟨coverage, covered, failures, -⟩ := gives_generateFrom done
  have found : (coverageOf shopSettings petShop).toOption.map (fun coverage =>
      decide (⟨"move_pet", gaveWay "move_pet" "move_pet" "move-pet"⟩ ∈ coverage.failures ∧
        ¬ ∃ code ∈ coverage.codes, code.plan.operation.name = "move-pet")) = some true := by
    decide +kernel
  rw [covered] at found
  obtain ⟨reported, absent⟩ := of_decide_eq_true (Option.some.inj found)
  exact ⟨result, after, coverage, done, covered, failures, failures ▸ reported, absent⟩

end Bindery.Run

import Bindery.Proofs.Failures
import Bindery.Proofs.Outcomes

/-!
# Planning is a choice made in order

The operations of a description are planned one after the other, and the only thing that one of them
leaves to those after it is the names that it takes.  `Chosen` says which operations a run should
accept and what it should report about the others, by a rule for one operation and its repetition
along the list; a run does what the rule says, and the rule leaves it no choice.  The one thing that
stands in the way of a run is an operation that lacks a name.
-/

namespace Bindery.Plan

open Bindery.Api Bindery.Steps

/-! ## The rule -/

/-- What becomes of an operation when it is planned after others: it is accepted with its plan, or
rejected with a failure. -/
inductive Verdict where
  | accepted (plan : OperationPlan)
  | rejected (failure : Failure)

namespace Verdict

/-- The plan of an operation that is accepted. -/
@[simp] def plan? : Verdict → Option OperationPlan
  | accepted plan => some plan
  | rejected _ => none

/-- The failure of an operation that is rejected. -/
@[simp] def failure? : Verdict → Option Failure
  | accepted _ => none
  | rejected failure => some failure

end Verdict

/-- The report that verdicts add up to. -/
def Report.ofVerdicts (verdicts : List Verdict) : Report where
  plans := verdicts.filterMap Verdict.plan?
  failures := verdicts.filterMap Verdict.failure?

/-- The verdict on an operation after others have been accepted.  It is accepted if it can be
planned alone and takes none of their names.  Otherwise it is rejected with the fault of planning it
alone, or with its first name that is taken and the operation that has it. -/
inductive Judged (setting : Setting) (accepted : List OperationPlan) (operation : Operation) :
    Verdict → Prop where
  | accepted {plan : OperationPlan} :
      Plan.plan setting operation = .ok plan → plan.Clear accepted →
      Judged setting accepted operation (.accepted plan)
  | failed {error : PlanError} {fault : Fault} :
      Plan.plan setting operation = .error error → error.fault? = some fault →
      Judged setting accepted operation (.rejected ⟨operation.name, fault⟩)
  | taken {plan owner : OperationPlan} {before after : List String} {name : String} :
      Plan.plan setting operation = .ok plan →
      plan.names.moduleNames = before ++ name :: after →
      (∀ free ∈ before, ∀ earlier ∈ accepted, free ∉ earlier.names.moduleNames) →
      owner ∈ accepted → name ∈ owner.names.moduleNames →
      Judged setting accepted operation (.rejected ⟨operation.name,
        .nameCollision operation.name name
          ("a name of operation '" ++ owner.operation.name ++ "'")⟩)

/-- The verdicts on operations in order, after others have been accepted.  Only an operation that is
accepted counts for those that follow. -/
inductive Chosen (setting : Setting) :
    List OperationPlan → List Operation → List Verdict → Prop where
  | nil {accepted : List OperationPlan} : Chosen setting accepted [] []
  | cons {accepted : List OperationPlan} {operation : Operation} {rest : List Operation}
      {verdict : Verdict} {more : List Verdict} :
      Judged setting accepted operation verdict →
      Chosen setting (accepted ++ verdict.plan?.toList) rest more →
      Chosen setting accepted (operation :: rest) (verdict :: more)

/-! ## Owners of names -/

/-- No name at the top of the module is taken by two of the plans. -/
def Apart (plans : List OperationPlan) : Prop :=
  ∀ first ∈ plans, ∀ second ∈ plans, ∀ name ∈ first.names.moduleNames,
    name ∈ second.names.moduleNames → first = second

theorem apart_nil : Apart [] := by
  intro first member
  cases member

/-- A plan that takes no name of others keeps them apart. -/
theorem Apart.concat {plans : List OperationPlan} {plan : OperationPlan} (apart : Apart plans)
    (clear : plan.Clear plans) : Apart (plans ++ [plan]) := by
  intro first inFirst second inSecond name ofFirst ofSecond
  rcases List.mem_append.1 inFirst with before | isPlan
  · rcases List.mem_append.1 inSecond with also | isPlan
    · exact apart first before second also name ofFirst ofSecond
    · cases List.mem_singleton.1 isPlan
      exact absurd ofFirst (clear first before name ofSecond)
  · cases List.mem_singleton.1 isPlan
    rcases List.mem_append.1 inSecond with before | isPlan
    · exact absurd ofSecond (clear second before name ofFirst)
    · exact (List.mem_singleton.1 isPlan).symm

/-- Every name that is taken has an owner among the plans. -/
theorem exists_of_owner?_eq_some {plans : List OperationPlan} {name owner : String}
    (found : owner? plans name = some owner) :
    ∃ plan ∈ plans, name ∈ plan.names.moduleNames ∧ plan.operation.name = owner := by
  obtain ⟨plan, there, same⟩ := Option.map_eq_some_iff.1 found
  have defines := List.find?_some there
  exact ⟨plan, List.mem_of_find?_eq_some there, of_decide_eq_true defines, same⟩

/-- Where plans are apart, any plan that takes a name is its owner. -/
theorem Apart.owner?_eq {plans : List OperationPlan} (apart : Apart plans) {plan : OperationPlan}
    (member : plan ∈ plans) {name : String} (taken : name ∈ plan.names.moduleNames) :
    owner? plans name = some plan.operation.name := by
  cases found : owner? plans name with
  | none => exact absurd taken (owner?_eq_none_iff.1 found plan member)
  | some owner =>
      obtain ⟨other, inPlans, also, rfl⟩ := exists_of_owner?_eq_some found
      rw [apart plan member other inPlans name taken also]

/-- A clash is about the first name that is taken and names the operation that took it. -/
theorem Apart.clash?_eq_some_iff {plans : List OperationPlan} (apart : Apart plans)
    {plan : OperationPlan} {collision : Collision} :
    clash? plans plan = some collision ↔
      ∃ before name after, ∃ owner ∈ plans,
        plan.names.moduleNames = before ++ name :: after ∧
        (∀ free ∈ before, ∀ earlier ∈ plans, free ∉ earlier.names.moduleNames) ∧
        name ∈ owner.names.moduleNames ∧
        collision = ⟨plan.operation.name, name, .operation owner.operation.name⟩ := by
  simp only [clash?]
  rw [List.findSome?_eq_some_iff]
  simp only [Option.map_eq_none_iff, owner?_eq_none_iff, Option.map_eq_some_iff]
  constructor
  · rintro ⟨before, name, after, split, ⟨_, found, rfl⟩, free⟩
    obtain ⟨owner, inPlans, taken, rfl⟩ := exists_of_owner?_eq_some found
    exact ⟨before, name, after, owner, inPlans, split, free, taken, rfl⟩
  · rintro ⟨before, name, after, owner, inPlans, split, free, taken, rfl⟩
    exact ⟨before, name, after, split, ⟨_, apart.owner?_eq inPlans taken, rfl⟩, free⟩

/-! ## One step -/

/-- A report with one more verdict. -/
def Report.extend (report : Report) (verdict : Verdict) : Report where
  plans := report.plans ++ verdict.plan?.toList
  failures := report.failures ++ verdict.failure?.toList

theorem Report.extend_inj {report : Report} {first second : Verdict}
    (same : report.extend first = report.extend second) : first = second := by
  obtain ⟨plans, failures⟩ := Report.mk.inj same
  have plans := List.append_cancel_left plans
  have failures := List.append_cancel_left failures
  cases first <;> cases second <;> simp_all

variable {setting : Setting}

/-- An operation is not planned after others if it cannot be planned alone or takes one of their
names. -/
theorem planAfter_eq_error_iff {plans : List OperationPlan} {operation : Operation}
    {error : PlanError} :
    planAfter setting plans operation = .error error ↔
      Plan.plan setting operation = .error error ∨
        ∃ plan collision, Plan.plan setting operation = .ok plan ∧
          clash? plans plan = some collision ∧ error = .collision collision := by
  simp only [planAfter]
  cases Plan.plan setting operation with
  | error cause => simp
  | ok plan =>
      dsimp only
      cases clashes : clash? plans plan with
      | none => simp [clashes]
      | some collision => simp [clashes, eq_comm]

theorem Conflict.message_operation (name : String) :
    (operation name).message = "a name of operation '" ++ name ++ "'" := rfl

/-- Planning one more operation does what the rule says. -/
theorem add_of_judged (report : Report) (apart : Apart report.plans) {operation : Operation}
    {verdict : Verdict} (judged : Judged setting report.plans operation verdict) :
    report.add setting operation = .ok (report.extend verdict) := by
  simp only [Report.add, Report.extend]
  cases judged with
  | accepted planned clear =>
      rw [planAfter_eq_ok_iff.2 ⟨planned, clear⟩]
      simp
  | failed failed reported =>
      rw [planAfter_eq_error_iff.2 (.inl failed)]
      simp [reported]
  | @taken plan owner _ _ name planned split free inPlans taken =>
      have clash : clash? report.plans plan =
          some ⟨operation.name, name, .operation owner.operation.name⟩ := by
        rw [apart.clash?_eq_some_iff, operation_of_plan planned]
        exact ⟨_, name, _, owner, inPlans, split, free, taken, rfl⟩
      rw [planAfter_eq_error_iff.2 (.inr ⟨plan, _, planned, clash, rfl⟩)]
      dsimp only [PlanError.fault?]
      rw [Conflict.message_operation]
      simp

/-- Whatever becomes of one more operation, there is a verdict on it, unless it lacks a name. -/
theorem exists_judged {plans : List OperationPlan} (apart : Apart plans) {operation : Operation}
    (named : ¬ Nameless setting operation) :
    ∃ verdict, Judged setting plans operation verdict := by
  cases planned : Plan.plan setting operation with
  | error error =>
      obtain ⟨fault, reported⟩ :=
        Option.ne_none_iff_exists'.1 (mt (fault?_eq_none_iff planned).1 named)
      exact ⟨_, .failed planned reported⟩
  | ok plan =>
      cases clash : clash? plans plan with
      | none => exact ⟨_, .accepted planned (clash?_eq_none_iff.1 clash)⟩
      | some collision =>
          obtain ⟨before, name, after, owner, inPlans, split, free, taken, -⟩ :=
            apart.clash?_eq_some_iff.1 clash
          exact ⟨_, .taken planned split free inPlans taken⟩

/-- An operation that lacks a name ends the run. -/
theorem add_of_nameless {report : Report} {operation : Operation}
    (nameless : Nameless setting operation) :
    report.add setting operation = .error (.emptyName .emptyName) := by
  simp only [Report.add]
  rw [planAfter_eq_error_iff.2 (.inl (plan_eq_error_iff.2 (.nameless nameless)))]
  rfl

/-- There is no other verdict on an operation. -/
theorem Judged.unique {plans : List OperationPlan} (apart : Apart plans) {operation : Operation}
    {first second : Verdict} (one : Judged setting plans operation first)
    (other : Judged setting plans operation second) : first = second := by
  have done := add_of_judged ⟨plans, []⟩ apart one
  rw [add_of_judged ⟨plans, []⟩ apart other] at done
  exact (Report.extend_inj (Except.ok.inj done)).symm

/-- Names that are apart are so after one more verdict. -/
theorem Judged.apart {plans : List OperationPlan} (apart : Apart plans) {operation : Operation}
    {verdict : Verdict} (judged : Judged setting plans operation verdict) :
    Apart (plans ++ verdict.plan?.toList) := by
  cases judged with
  | accepted _ clear => exact apart.concat clear
  | failed | taken => simpa using apart

/-! ## Runs -/

/-- A run does what the rule says, operation by operation. -/
theorem foldlM_add_of_chosen (report : Report) (apart : Apart report.plans)
    {operations : List Operation} {verdicts : List Verdict}
    (chosen : Chosen setting report.plans operations verdicts) :
    operations.foldlM (Report.add setting) report =
      .ok ⟨report.plans ++ verdicts.filterMap Verdict.plan?,
        report.failures ++ verdicts.filterMap Verdict.failure?⟩ := by
  induction operations generalizing report verdicts with
  | nil =>
      cases chosen
      simp [pure, Except.pure]
  | cons operation rest ih =>
      cases chosen with
      | @cons _ _ _ verdict more judged later =>
          rw [List.foldlM_cons, add_of_judged report apart judged]
          refine (ih _ (judged.apart apart) later).trans (congrArg Except.ok ?_)
          cases verdict <;> simp [Report.extend, List.filterMap_cons]

/-- Where every operation has its names there are verdicts on all of them. -/
theorem exists_chosen {plans : List OperationPlan} (apart : Apart plans)
    {operations : List Operation} (named : ∀ operation ∈ operations, ¬ Nameless setting operation) :
    ∃ verdicts, Chosen setting plans operations verdicts := by
  induction operations generalizing plans with
  | nil => exact ⟨[], .nil⟩
  | cons operation rest ih =>
      obtain ⟨first, later⟩ := List.forall_mem_cons.1 named
      obtain ⟨verdict, judged⟩ := exists_judged apart first
      obtain ⟨more, chosen⟩ := ih (judged.apart apart) later
      exact ⟨verdict :: more, .cons judged chosen⟩

/-- The rule leaves no choice. -/
theorem Chosen.unique {plans : List OperationPlan} (apart : Apart plans)
    {operations : List Operation} {first second : List Verdict}
    (one : Chosen setting plans operations first)
    (other : Chosen setting plans operations second) : first = second := by
  induction operations generalizing plans first second with
  | nil =>
      cases one
      cases other
      rfl
  | cons operation rest ih =>
      cases one with
      | cons judged later =>
          cases other with
          | cons again more =>
              cases judged.unique apart again
              rw [ih (judged.apart apart) later more]

/-- The plans of a run are apart from each other and from those before it. -/
theorem Chosen.apart {plans : List OperationPlan} (apart : Apart plans)
    {operations : List Operation} {verdicts : List Verdict}
    (chosen : Chosen setting plans operations verdicts) :
    Apart (plans ++ verdicts.filterMap Verdict.plan?) := by
  induction chosen with
  | nil => simpa using apart
  | @cons _ _ _ verdict _ judged _ ih =>
      have later := ih (judged.apart apart)
      cases verdict <;> simpa [List.filterMap_cons] using later

/-- Every verdict of a run was passed on one of the operations, when some of the plans of the run
had been accepted. -/
theorem Chosen.exists_judged {plans : List OperationPlan} {operations : List Operation}
    {verdicts : List Verdict} (chosen : Chosen setting plans operations verdicts)
    {verdict : Verdict} (member : verdict ∈ verdicts) :
    ∃ accepted, accepted ⊆ plans ++ verdicts.filterMap Verdict.plan? ∧
      ∃ operation ∈ operations, Judged setting accepted operation verdict := by
  induction chosen with
  | nil => cases member
  | @cons plans operation _ first more judged _ ih =>
      rcases List.mem_cons.1 member with rfl | later
      · exact ⟨plans, List.subset_append_left .., operation, List.mem_cons_self, judged⟩
      · obtain ⟨accepted, known, other, inRest, found⟩ := ih later
        have all : plans ++ (first :: more).filterMap Verdict.plan? =
            plans ++ first.plan?.toList ++ more.filterMap Verdict.plan? := by
          cases first <;> simp [List.filterMap_cons]
        exact ⟨accepted, all ▸ known, other, List.mem_cons_of_mem _ inRest, found⟩

/-- A run that comes to an operation that lacks a name ends there. -/
theorem foldlM_add_of_nameless (report : Report) (apart : Apart report.plans)
    {operations : List Operation} (wanting : ∃ operation ∈ operations, Nameless setting operation) :
    operations.foldlM (Report.add setting) report = .error (.emptyName .emptyName) := by
  induction operations generalizing report with
  | nil =>
      obtain ⟨_, member, -⟩ := wanting
      cases member
  | cons operation rest ih =>
      rw [List.foldlM_cons]
      by_cases here : Nameless setting operation
      · rw [add_of_nameless here]
        rfl
      · obtain ⟨verdict, judged⟩ := exists_judged apart here
        obtain ⟨other, member, later⟩ := wanting
        rw [add_of_judged report apart judged]
        refine ih _ (judged.apart apart) ⟨other, ?_, later⟩
        refine (List.mem_cons.1 member).resolve_left ?_
        rintro rfl
        exact here later

/-! ## Planning many operations -/

/-- A report on no operation before is the report of the verdicts alone. -/
theorem planAll_of_chosen {operations : List Operation} {verdicts : List Verdict}
    (chosen : Chosen setting [] operations verdicts) :
    planAll setting operations = .ok (.ofVerdicts verdicts) :=
  foldlM_add_of_chosen .empty apart_nil chosen

/-- Where every operation has its names, a run gives the report of the verdicts by the rule, and
there are no other verdicts by it. -/
theorem exists_planAll_eq_ok {operations : List Operation}
    (named : ∀ operation ∈ operations, ¬ Nameless setting operation) :
    ∃ verdicts, planAll setting operations = .ok (.ofVerdicts verdicts) ∧
      ∀ others, Chosen setting [] operations others ↔ others = verdicts := by
  obtain ⟨verdicts, chosen⟩ := exists_chosen apart_nil named
  refine ⟨verdicts, planAll_of_chosen chosen, fun others => ⟨?_, ?_⟩⟩
  · intro other
    exact other.unique apart_nil chosen
  · rintro rfl
    exact chosen

/-- A run that comes to an operation that lacks a name gives no report. -/
theorem planAll_of_nameless {operations : List Operation}
    (wanting : ∃ operation ∈ operations, Nameless setting operation) :
    planAll setting operations = .error (.emptyName .emptyName) :=
  foldlM_add_of_nameless .empty apart_nil wanting

/-- A run that gives a report has passed the verdicts on its operations. -/
theorem exists_chosen_of_planAll {operations : List Operation} {report : Report}
    (done : planAll setting operations = .ok report) :
    ∃ verdicts, Chosen setting [] operations verdicts ∧ report = .ofVerdicts verdicts := by
  have named : ∀ operation ∈ operations, ¬ Nameless setting operation := by
    intro operation member nameless
    rw [planAll_of_nameless ⟨operation, member, nameless⟩] at done
    cases done
  obtain ⟨verdicts, chosen⟩ := exists_chosen apart_nil named
  rw [planAll_of_chosen chosen] at done
  exact ⟨verdicts, chosen, (Except.ok.inj done).symm⟩

/-- The plans of a report are those of operations on their own, and they are apart. -/
theorem planned_of_planAll {operations : List Operation} {report : Report}
    (done : planAll setting operations = .ok report) :
    (∀ plan ∈ report.plans, plan.operation ∈ operations ∧
      Plan.plan setting plan.operation = .ok plan) ∧ Apart report.plans := by
  obtain ⟨verdicts, chosen, rfl⟩ := exists_chosen_of_planAll done
  refine ⟨fun plan member => ?_, chosen.apart apart_nil⟩
  obtain ⟨verdict, inVerdicts, found⟩ := List.mem_filterMap.1 member
  obtain ⟨accepted, -, operation, inOperations, judged⟩ := chosen.exists_judged inVerdicts
  cases judged with
  | accepted planned =>
      cases found
      rw [operation_of_plan planned]
      exact ⟨inOperations, planned⟩
  | failed | taken => cases found

/-- An operation that has a name and whose parameters all have one. -/
def Named (operation : Operation) : Prop :=
  operation.name ≠ "" ∧ ∀ parameter ∈ operation.parameters, parameter.name ≠ ""

theorem Named.not_nameless {operation : Operation} (named : Named operation) :
    ¬ Nameless setting operation := by
  rintro (unnamed | ⟨split, unnamed, -⟩)
  · exact named.1 unnamed
  · exact named.2 _ (split ▸ List.mem_append_right _ List.mem_cons_self) unnamed

/-- Planning operations that have their names is choosing them in order. -/
theorem planAll_eq_chosen {operations : List Operation}
    (named : ∀ operation ∈ operations, Named operation) :
    ∃ verdicts, planAll setting operations = .ok (.ofVerdicts verdicts) ∧
      ∀ others, Chosen setting [] operations others ↔ others = verdicts := by
  exact exists_planAll_eq_ok fun operation member => (named operation member).not_nameless

/-- Operations that get in each other's way: the second takes a name of the first, the third only
one of the second, the fourth the name of a class, and the last has a result of no known type. -/
def relay : Document where
  operations := [
    { name := "fetch", parameters := [{ name := "key", location := .query }] },
    { name := "afetch" },
    { name := "aafetch" },
    { name := "FetchParams" },
    { name := "find", returnType := some { ref := some "Pet" } }]

/-- An operation that is rejected takes no names: the third is accepted. -/
theorem relay_chosen :
    ∃ verdicts, planAll (.ofDocument .options relay) relay.operations = .ok (.ofVerdicts verdicts) ∧
      Chosen (.ofDocument .options relay) [] relay.operations verdicts ∧
      (verdicts.filterMap Verdict.plan?).map (·.operation.name) = ["fetch", "aafetch"] ∧
      verdicts.filterMap Verdict.failure? = [
        ⟨"afetch", .nameCollision "afetch" "afetch" "a name of operation 'fetch'"⟩,
        ⟨"FetchParams", .nameCollision "FetchParams" "FetchParams" "a name of operation 'fetch'"⟩,
        ⟨"find", .unmappableType "$ref 'Pet'" "unknown schema" (some "find")
          (some "return type")⟩] := by
  have named : ∀ operation ∈ relay.operations, Named operation := by
    simp [relay, Named]
  obtain ⟨verdicts, done, chosen⟩ := planAll_eq_chosen named
  have found : (planAll (.ofDocument .options relay) relay.operations).toOption.map
      (fun report => (report.plans.map (·.operation.name), report.failures)) =
      some (["fetch", "aafetch"], [
        ⟨"afetch", .nameCollision "afetch" "afetch" "a name of operation 'fetch'"⟩,
        ⟨"FetchParams", .nameCollision "FetchParams" "FetchParams" "a name of operation 'fetch'"⟩,
        ⟨"find", .unmappableType "$ref 'Pet'" "unknown schema" (some "find")
          (some "return type")⟩]) := by
    decide +kernel
  rw [done] at found
  obtain ⟨accepted, rejected⟩ := Prod.mk.inj (Option.some.inj found)
  exact ⟨verdicts, done, (chosen verdicts).2 rfl, accepted, rejected⟩

/-- A run over any operations ends early if one of them lacks a name, and then nothing is said of
the others.  Whatever else is wrong with an operation is reported about it alone, and all the others
are judged by the rule. -/
theorem planAll_ends_early_or_chosen (setting : Setting) (operations : List Operation) :
    (planAll setting operations = .error (.emptyName .emptyName) ↔
      ∃ operation ∈ operations, Nameless setting operation) ∧
    ((∃ operation ∈ operations, Nameless setting operation) ∨
      ∃ verdicts, planAll setting operations = .ok (.ofVerdicts verdicts) ∧
        ∀ others, Chosen setting [] operations others ↔ others = verdicts) := by
  by_cases wanting : ∃ operation ∈ operations, Nameless setting operation
  · exact ⟨iff_of_true (planAll_of_nameless wanting) wanting, .inl wanting⟩
  · have named : ∀ operation ∈ operations, ¬ Nameless setting operation :=
      fun operation member nameless => wanting ⟨operation, member, nameless⟩
    obtain ⟨verdicts, done, chosen⟩ := exists_planAll_eq_ok named
    refine ⟨iff_of_false ?_ wanting, .inr ⟨verdicts, done, chosen⟩⟩
    rw [done]
    rintro ⟨⟩

/-- An operation without a name ends the planning of two others that can be planned. -/
theorem unnamed_operation_ends_planning :
    (¬ ∃ report, planAll (.ofDocument .options {})
      [{ name := "ping" }, { name := "" }, { name := "pong" }] = .ok report) ∧
    (planAll (.ofDocument .options {}) [{ name := "ping" }, { name := "pong" }]).toOption.map
      (fun report => report.plans.map (·.operation.name)) = some ["ping", "pong"] := by
  constructor
  · rintro ⟨report, done⟩
    rw [planAll_of_nameless ⟨{ name := "" }, by simp, .operation rfl⟩] at done
    cases done
  · decide +kernel

end Bindery.Plan

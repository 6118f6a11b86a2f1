import Bindery.Proofs.Bodies
import Bindery.Proofs.Runs
import Bindery.Run.Session

/-!
# What is shown before a client is generated

The plan of a client can be shown without generating it.  What is shown are the plans of the
operations and the failures to plan the others; what a run of the generator reports are these
failures and those to write an operation.  Both look at one report on the operations, so they differ
in the operations that are planned and have several bodies, and in nothing else.
-/

namespace Bindery.Run

open Bindery.Api Bindery.Client Bindery.Code Bindery.Display Bindery.Files Bindery.Loading
  Bindery.Plan Bindery.Steps

/-! ## Parts of a command -/

/-- Of two parts of a command the second goes on from the session that the first leaves, unless the
first ends the command. -/
theorem Dialogue.run_bind {α β : Type} (part : Dialogue α) (next : α → Dialogue β)
    (session : Session) :
    (part >>= next).run.run session =
      match part.run.run session with
      | (.ok value, after) => (next value).run.run after
      | (.error ending, after) => (.error ending, after) := by
  rw [ExceptT.run_bind, StateT.run_bind]
  rcases part.run.run session with ⟨value | value, after⟩ <;> rfl

/-- The command to show a plan leaves the files alone and prints a table, or breaks off where the
table cannot be drawn. -/
def Shows (around : Surroundings) (source : String) (variant : Variant) (session : Session)
    (table : Table) : Prop :=
  (inspect around source variant).run.run session =
    match table.draw around.columns with
    | .ok lines => (.ok (), { session with printed := session.printed ++ lines.map String.ofList })
    | .error flaw => (.error (.crashed (.markup flaw)), session)

variable {around : Surroundings} {source : String} {session : Session}

theorem run_inspected {document : Document}
    (loaded : load around.web session.tree ⟨around.workingDirectory, none⟩ source = .ok document) :
    (inspected around source).run.run session = (.ok document, session) := by
  have here : (get : Dialogue Session).run.run session = (.ok session, session) := rfl
  simp only [inspected]
  rw [Dialogue.run_bind, here]
  dsimp only
  rw [loaded]
  rfl

/-- What is shown of a description whose operations can be reported on is the table of the
report. -/
theorem shows_planTable {variant : Variant} {document : Document} {report : Report}
    (loaded : load around.web session.tree ⟨around.workingDirectory, none⟩ source = .ok document)
    (planned : planAll (.ofDocument variant document) document.operations = .ok report) :
    Shows around source variant session (planTable document.title report) := by
  simp only [Shows, inspect]
  rw [Dialogue.run_bind, run_inspected loaded]
  dsimp only
  rw [planned, Dialogue.run_bind]
  change ((Dialogue.orCrash Crash.markup ((planTable document.title report).draw around.columns) >>=
    Dialogue.say).run.run session) = _
  rw [Dialogue.run_bind]
  cases (planTable document.title report).draw around.columns with
  | ok lines => rfl
  | error flaw => rfl

/-! ## Showing and generating -/

variable {compiler : Compiler} {settings : Settings} {document : Document} {tree after : Tree}
  {result : Result}

/-- Wherever the description of a run is shown with the variant of the run, the table has the plans
and failures of one report, and the run goes by the same report.  It writes the plans with at most
one body and reports the others beside the failures that are shown, so it reports what is shown
exactly if no plan that is shown has several bodies. -/
theorem inspect_agrees_iff
    (done : (generateFrom compiler settings document).Gives tree result after) :
    ∃ report coverage,
      planAll (.ofDocument settings.variant document) document.operations = .ok report ∧
      (∀ around session,
        load around.web session.tree ⟨around.workingDirectory, none⟩ settings.source =
          .ok document →
        Shows around settings.source settings.variant session (planTable document.title report)) ∧
      coverageOf settings document = .ok coverage ∧
      WritesFiles compiler settings document (endpointsModule coverage.codes)
        (endpointNames coverage.codes) tree result.files after ∧
      coverage.codes.map (·.plan) = report.plans.filter (! ·.operation.hasSeveralBodies) ∧
      result.failures = report.failures ++
        (report.plans.filter (·.operation.hasSeveralBodies)).map bodiesFailure ∧
      (result.failures.Perm report.failures ↔
        ∀ plan ∈ report.plans, plan.operation.hasSeveralBodies = false) ∧
      (coverage.codes.map (·.plan) = report.plans ↔
        ∀ plan ∈ report.plans, plan.operation.hasSeveralBodies = false) := by
  obtain ⟨coverage, covered, failures, written⟩ := gives_generateFrom done
  obtain ⟨report, planned, codes, reported⟩ := exists_report_of_cover covered
  have all := failures.trans reported
  refine ⟨report, coverage, planned, fun around session loaded => shows_planTable loaded planned,
    covered, written, codes, all, ?_, ?_⟩
  · rw [all]
    constructor
    · intro same plan member
      have none_more := same.length_eq
      rw [List.length_append, List.length_map] at none_more
      have nothing := List.eq_nil_of_length_eq_zero (Nat.add_eq_left.1 none_more)
      rw [← Bool.not_eq_true]
      exact List.filter_eq_nil_iff.1 nothing plan member
    · intro one
      have nothing : report.plans.filter (·.operation.hasSeveralBodies) = [] :=
        List.filter_eq_nil_iff.2 fun plan member => by simp [one plan member]
      rw [nothing]
      simp
  · rw [codes, List.filter_eq_self]
    simp only [Bool.not_eq_true']

/-- Three operations are reported by a run and two of them are shown to fail. -/
theorem petShop_shown :
    ∃ result after report, (generateFrom .strict shopSettings petShop).Gives .empty result after ∧
      planAll (.ofDocument shopSettings.variant petShop) petShop.operations = .ok report ∧
      result.failures = report.failures ++
        (report.plans.filter (·.operation.hasSeveralBodies)).map bodiesFailure ∧
      result.failures.length = 3 ∧ report.failures.length = 2 := by
  obtain ⟨result, after, done, length⟩ := exists_gives_petShop
  obtain ⟨report, coverage, planned, -, -, -, -, failures, -, -⟩ := inspect_agrees_iff done
  have shown : (planAll (.ofDocument shopSettings.variant petShop) petShop.operations).toOption.map
      (·.failures.length) = some 2 := by
    decide +kernel
  rw [planned] at shown
  exact ⟨result, after, report, done, planned, failures, length, Option.some.inj shown⟩

/-- The operation that is called move-pet is shown with a plan and not with a failure, and it is
reported by a run. -/
theorem movePet_shown_and_skipped :
    ∃ result after report plan,
      (generateFrom .strict shopSettings petShop).Gives .empty result after ∧
      planAll (.ofDocument shopSettings.variant petShop) petShop.operations = .ok report ∧
      plan ∈ report.plans ∧
      planRow plan = ["move-pet", "2", "move_pet(configuration, params)", "MovePetParams",
        "MovePetParamsBuilder"] ∧
      (∀ failure ∈ report.failures, failure.operation ≠ "move-pet") ∧
      bodiesFailure plan ∈ result.failures := by
  obtain ⟨result, after, done, -⟩ := exists_gives_petShop
  obtain ⟨coverage, covered, failures, -⟩ := gives_generateFrom done
  obtain ⟨report, planned, -, reported⟩ := exists_report_of_cover covered
  have shown : (planAll (.ofDocument shopSettings.variant petShop) petShop.operations).toOption.map
      (fun report => decide ((∃ plan ∈ report.plans,
        planRow plan = ["move-pet", "2", "move_pet(configuration, params)", "MovePetParams",
          "MovePetParamsBuilder"] ∧ plan.operation.hasSeveralBodies = true) ∧
        ∀ failure ∈ report.failures, failure.operation ≠ "move-pet")) = some true := by
    decide +kernel
  rw [planned] at shown
  obtain ⟨⟨plan, inPlans, row, several⟩, notFailed⟩ := of_decide_eq_true (Option.some.inj shown)
  refine ⟨result, after, report, plan, done, planned, inPlans, row, notFailed, ?_⟩
  rw [failures, reported]
  exact List.mem_append_right _
    (List.mem_map_of_mem (List.mem_filter.2 ⟨inPlans, several⟩))

end Bindery.Run

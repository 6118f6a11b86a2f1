import Bindery.Proofs.Outcomes
import Bindery.Run.Generate

/-!
# Runs of the generator

A run is a chain of actions on the tree of files, and one that gives a result goes through each of
its actions in turn.  All that a run does with the operations of a description it does with their
outcomes: it writes the code of those that are written and reports the failures of the others.
-/

namespace Bindery.Run

open Bindery.Api Bindery.Client Bindery.Code Bindery.Files Bindery.Loading Bindery.Plan
  Bindery.Steps

/-! ## Actions -/

namespace Action

variable {α β : Type} {tree after : Tree}

/-- An action on a tree gives a result and leaves another tree. -/
def Gives (action : Action α) (tree : Tree) (result : α) (after : Tree) : Prop :=
  action.run.run tree = (.ok result, after)

/-- Of two actions in turn the second starts from the tree that the first leaves. -/
theorem gives_bind_iff {action : Action α} {next : α → Action β} {result : β} :
    Gives (action >>= next) tree result after ↔
      ∃ value between, action.Gives tree value between ∧
        (next value).Gives between result after := by
  simp only [Gives]
  rw [ExceptT.run_bind, StateT.run_bind]
  rcases action.run.run tree with ⟨value | value, between⟩
  · constructor
    · intro done
      cases done
    · rintro ⟨_, _, done, -⟩
      cases done
  · constructor
    · intro done
      exact ⟨value, between, rfl, done⟩
    · rintro ⟨_, _, same, done⟩
      cases same
      exact done

/-- A computation without a tree leaves the tree as it is. -/
theorem gives_liftM_iff {step : Except Error α} {result : α} :
    Gives (liftM step) tree result after ↔ step = .ok result ∧ tree = after := by
  cases step with
  | error error =>
      constructor
      · intro done
        cases done
      · rintro ⟨done, -⟩
        cases done
  | ok value =>
      constructor
      · intro done
        cases done
        exact ⟨rfl, rfl⟩
      · rintro ⟨same, rfl⟩
        cases same
        rfl

theorem gives_liftM_bind_iff {step : Except Error α} {next : α → Action β} {result : β} :
    Gives (liftM step >>= next) tree result after ↔
      ∃ value, step = .ok value ∧ (next value).Gives tree result after := by
  rw [gives_bind_iff]
  constructor
  · rintro ⟨value, between, lifted, done⟩
    obtain ⟨found, rfl⟩ := gives_liftM_iff.1 lifted
    exact ⟨value, found, done⟩
  · rintro ⟨value, found, done⟩
    exact ⟨value, tree, gives_liftM_iff.2 ⟨found, rfl⟩, done⟩

theorem gives_map_iff {action : Action α} {image : α → β} {result : β} :
    Gives (image <$> action) tree result after ↔
      ∃ value, action.Gives tree value after ∧ image value = result := by
  rw [map_eq_pure_bind, gives_bind_iff]
  constructor
  · rintro ⟨value, between, first, done⟩
    cases done
    exact ⟨value, first, rfl⟩
  · rintro ⟨value, first, rfl⟩
    exact ⟨value, after, first, rfl⟩

/-- What is seen of the result of a run is seen of a result that it gives. -/
theorem exists_gives {action : Action α} {view : α → β} {seen : β}
    (found : (action.run.run tree).1.toOption.map view = some seen) :
    ∃ result after, action.Gives tree result after ∧ view result = seen := by
  obtain ⟨result, ran, same⟩ := toOption_map_eq_some_iff.1 found
  exact ⟨result, _, Prod.ext ran rfl, same⟩

end Action

/-! ## What a run does with operations -/

variable {compiler : Compiler} {settings : Settings} {document : Document} {tree after : Tree}
  {result : Result}

/-- A run loads a description and generates from it, both on the same tree. -/
theorem gives_generate_iff {around : Surroundings} :
    (generate around settings).Gives tree result after ↔
      ∃ document,
        load around.web tree ⟨around.workingDirectory, none⟩ settings.source = .ok document ∧
        (generateFrom around.compiler settings document).Gives tree result after := by
  simp only [generate]
  constructor
  · intro done
    obtain ⟨_, _, here, done⟩ := Action.gives_bind_iff.1 done
    cases here
    obtain ⟨document, loaded, done⟩ := Action.gives_liftM_bind_iff.1 done
    exact ⟨document, mapError_eq_ok_iff.1 loaded, done⟩
  · rintro ⟨document, loaded, done⟩
    refine Action.gives_bind_iff.2 ⟨tree, tree, rfl, ?_⟩
    exact Action.gives_liftM_bind_iff.2 ⟨document, mapError_eq_ok_iff.2 loaded, done⟩

/-- The files of a run are written one after the other, each to the tree that the one before it
leaves.  The endpoints module is given, and so are the names that the package takes from it. -/
inductive WritesFiles (compiler : Compiler) (settings : Settings) (document : Document)
    (module : Module) (exported : List String) (tree : Tree) : List Destination → Tree → Prop where
  | intro {url directory models modelsPath endpointsPath runtimePath packagePath}
      {prepared first second third after : Tree} :
      baseUrl settings document = .ok url →
      Destination.parse settings.output = .ok directory →
      modelsOf document = .ok models →
      (change directory (·.prepare directory)).Gives tree () prepared →
      (writeModule compiler (directory.join (.parse settings.modelsFile))
          (modelsModule models)).Gives prepared modelsPath first →
      (writeModule compiler (directory.join (.parse settings.endpointsFile)) module).Gives
        first endpointsPath second →
      (writeText (directory.join (.parse "_runtime.py")) (runtimeText url)).Gives
        second runtimePath third →
      (writeModule compiler (directory.join (.parse "__init__.py"))
          (packageModule document.title (moduleName settings.modelsFile)
            (moduleName settings.endpointsFile) (models.map (·.name)) exported)).Gives
        third packagePath after →
      WritesFiles compiler settings document module exported tree
        [modelsPath, endpointsPath, runtimePath, packagePath] after

/-- A run that gives a result has covered the operations, reports their failures and has written
the code of the others. -/
theorem gives_generateFrom
    (done : (generateFrom compiler settings document).Gives tree result after) :
    ∃ coverage, coverageOf settings document = .ok coverage ∧
      result.failures = coverage.failures ∧
      WritesFiles compiler settings document (endpointsModule coverage.codes)
        (endpointNames coverage.codes) tree result.files after := by
  simp only [generateFrom, produce] at done
  obtain ⟨url, urlFound, done⟩ := Action.gives_liftM_bind_iff.1 done
  obtain ⟨directory, parsed, done⟩ := Action.gives_liftM_bind_iff.1 done
  obtain ⟨_, prepared, changed, done⟩ := Action.gives_bind_iff.1 done
  obtain ⟨models, modelled, done⟩ := Action.gives_liftM_bind_iff.1 done
  obtain ⟨modelsPath, first, modelsWritten, done⟩ := Action.gives_bind_iff.1 done
  obtain ⟨coverage, covered, done⟩ := Action.gives_liftM_bind_iff.1 done
  obtain ⟨endpointsPath, second, endpointsWritten, done⟩ := Action.gives_bind_iff.1 done
  obtain ⟨runtimePath, third, runtimeWritten, done⟩ := Action.gives_bind_iff.1 done
  obtain ⟨packagePath, _, packageWritten, done⟩ := Action.gives_bind_iff.1 done
  cases done
  exact ⟨coverage, mapError_eq_ok_iff.1 covered, rfl,
    .intro urlFound (mapError_eq_ok_iff.1 parsed) (mapError_eq_ok_iff.1 modelled) changed
      modelsWritten endpointsWritten runtimeWritten packageWritten⟩

/-- The outcomes of the operations of a description. -/
def outcomesOf (settings : Settings) (document : Document) : Except PlanError (List Outcome) :=
  outcomes (.ofDocument settings.variant document) ("." ++ moduleName settings.modelsFile)
    document.operations

theorem coverageOf_eq_map_outcomesOf :
    coverageOf settings document = (outcomesOf settings document).map Coverage.ofOutcomes :=
  cover_eq_map_outcomes document.operations

/-- Every operation is accounted for at its own position.  An operation that is written contributes
its code and exports the names that it defines there; any other contributes a failure of its name
and nothing else. -/
theorem operations_accounted_for
    (done : (generateFrom compiler settings document).Gives tree result after) :
    ∃ results module, outcomesOf settings document = .ok results ∧
      List.Forall₂ (Settles (.ofDocument settings.variant document)
        ("." ++ moduleName settings.modelsFile)) document.operations results ∧
      WritesFiles compiler settings document module (results.flatMap Outcome.exported) tree
        result.files after ∧
      module.definitions = results.flatMap Outcome.items ∧
      module.imports = (Imports.all (results.map Outcome.imports)).statements ∧
      module.exportedNames = sorted (results.flatMap Outcome.exported) ∧
      (∀ outcome ∈ results, (outcome.items.filterMap Item.definedName?).Perm outcome.exported) ∧
      result.failures.Perm (results.filterMap Outcome.failure?) ∧
      (results.filterMap Outcome.code?).length + result.failures.length =
        document.operations.length := by
  obtain ⟨coverage, covered, failures, written⟩ := gives_generateFrom done
  rw [coverageOf_eq_map_outcomesOf, map_eq_ok_iff] at covered
  obtain ⟨results, known, rfl⟩ := covered
  have settled := forall₂_settles known
  have reported : result.failures.Perm (results.filterMap Outcome.failure?) := by
    rw [failures]
    exact failures_ofOutcomes_perm results
  rw [flatMap_exported] at written
  refine ⟨results, _, known, settled, written, ?_, ?_, ?_, ?_, reported, ?_⟩
  · rw [definitions_endpointsModule, flatMap_items]
  · rw [imports_endpointsModule, all_imports]
  · rw [exportedNames_endpointsModule, flatMap_exported]
  · intro outcome member
    obtain ⟨operation, -, here⟩ := exists_mem_of_forall₂ settled member
    exact here.definedNames_perm
  · rw [reported.length_eq, length_code?_add_length_failure?, settled.length_eq]

/-- Settings that keep a client in memory. -/
def shopSettings : Settings where
  source := "shop.json"
  output := "memory:/shop"

theorem exists_gives_petShop :
    ∃ result after, (generateFrom .strict shopSettings petShop).Gives .empty result after ∧
      result.failures.length = 3 := by
  refine Action.exists_gives ?_
  decide +kernel

/-- Of five operations two are written and three are reported, two of them with one name. -/
theorem petShop_operations_accounted_for :
    ∃ result after results module,
      (generateFrom .strict shopSettings petShop).Gives .empty result after ∧
      outcomesOf shopSettings petShop = .ok results ∧
      WritesFiles .strict shopSettings petShop module (results.flatMap Outcome.exported) .empty
        result.files after ∧
      module.definitions = results.flatMap Outcome.items ∧
      module.exportedNames = sorted (results.flatMap Outcome.exported) ∧
      result.failures.Perm (results.filterMap Outcome.failure?) ∧
      result.failures.length = 3 ∧
      (results.filterMap Outcome.code?).length = 2 := by
  obtain ⟨result, after, done, length⟩ := exists_gives_petShop
  obtain ⟨results, module, known, -, written, definitions, -, exported, -, reported, count⟩ :=
    operations_accounted_for done
  refine ⟨result, after, results, module, done, known, written, definitions, exported, reported,
    length, ?_⟩
  have five : petShop.operations.length = 5 := rfl
  omega

/-! ## Runs without the operations that fail -/

/-- A run reports the failures of the operations and does nothing else with them. -/
theorem produce_failures (codes : List OperationCode) (failures others : List Failure) :
    produce compiler settings document (.ok ⟨codes, failures⟩) =
      (fun result => { result with failures := failures }) <$>
        produce compiler settings document (.ok ⟨codes, others⟩) := by
  have given (coverage : Coverage) :
      (liftM (Except.ok coverage : Except Error Coverage) : Action Coverage) = pure coverage := rfl
  simp only [produce]
  simp only [given, pure_bind, map_bind, map_pure]

/-- A description with other operations. -/
def withOperations (document : Document) (operations : List Operation) : Document :=
  { document with operations := operations }

/-- Without the operations that fail, the others are covered in the same way. -/
theorem coverageOf_survivors {results : List Outcome}
    (known : outcomesOf settings document = .ok results) :
    coverageOf settings (withOperations document (survivors document.operations results)) =
      .ok ⟨(Coverage.ofOutcomes results).codes, []⟩ := by
  have fewer : outcomesOf settings
      (withOperations document (survivors document.operations results)) =
        .ok (results.filter Outcome.isWritten) :=
    outcomesAfter_survivors (List.Subset.refl []) known
  rw [coverageOf_eq_map_outcomesOf, fewer, ← ofOutcomes_filter_isWritten]
  rfl

/-- The operations that fail leave no trace.  Without them a run has no failures and does the same
with every tree; on the tree of the first run it gives the same files and leaves the same tree. -/
theorem generateFrom_survivors
    (done : (generateFrom compiler settings document).Gives tree result after) :
    ∃ results, outcomesOf settings document = .ok results ∧
      List.Forall₂ (Settles (.ofDocument settings.variant document)
        ("." ++ moduleName settings.modelsFile)) document.operations results ∧
      result.failures.Perm (results.filterMap Outcome.failure?) ∧
      generateFrom compiler settings
          (withOperations document (survivors document.operations results)) =
        (fun result => { result with failures := [] }) <$>
          generateFrom compiler settings document ∧
      (generateFrom compiler settings
          (withOperations document (survivors document.operations results))).Gives
        tree { result with failures := [] } after := by
  obtain ⟨coverage, covered, failures, -⟩ := gives_generateFrom done
  have found := covered
  rw [coverageOf_eq_map_outcomesOf, map_eq_ok_iff] at found
  obtain ⟨results, known, rfl⟩ := found
  have same : generateFrom compiler settings
      (withOperations document (survivors document.operations results)) =
        (fun result => { result with failures := [] }) <$>
          generateFrom compiler settings document := by
    simp only [generateFrom]
    rw [coverageOf_survivors known, covered]
    exact produce_failures _ [] _
  refine ⟨results, known, forall₂_settles known, ?_, same, ?_⟩
  · rw [failures]
    exact failures_ofOutcomes_perm results
  · rw [same]
    exact Action.gives_map_iff.2 ⟨result, done, rfl⟩

/-- Three of five operations fail, and a run for the other two leaves the same tree. -/
theorem petShop_survivors :
    ∃ result after results,
      (generateFrom .strict shopSettings petShop).Gives .empty result after ∧
      result.failures.length = 3 ∧
      outcomesOf shopSettings petShop = .ok results ∧
      (generateFrom .strict shopSettings
          (withOperations petShop (survivors petShop.operations results))).Gives
        .empty { result with failures := [] } after := by
  obtain ⟨result, after, done, length⟩ := exists_gives_petShop
  obtain ⟨results, known, -, -, -, again⟩ := generateFrom_survivors done
  exact ⟨result, after, results, done, length, known, again⟩

end Bindery.Run

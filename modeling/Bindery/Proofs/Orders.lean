import Bindery.Proofs.Canonical
import Bindery.Proofs.NamedImports
import Bindery.Proofs.Writes

/-!
# The order of operations

Operations meet in the names that they define at the top of the endpoints module and nowhere else.
If no two of them define a name together, what becomes of each is settled by the operation alone,
whatever comes before it.  Imports and exported names are put in an order of their own, so a
description with its operations in another order has the same client, with the code of the
operations in that order.
-/

namespace Bindery.Plan

open Bindery.Api

/-- The names that an operation defines at the top of the module if it can be planned. -/
def claims (setting : Setting) (operation : Operation) : List String :=
  match plan setting operation with
  | .ok plan => plan.names.moduleNames
  | .error _ => []

theorem claims_of_plan {setting : Setting} {operation : Operation} {plan : OperationPlan}
    (planned : Plan.plan setting operation = .ok plan) :
    claims setting operation = plan.names.moduleNames := by
  simp only [claims, planned]

/-- No two operations that can be planned define a name together. -/
def Independent (setting : Setting) (operations : List Operation) : Prop :=
  operations.Pairwise fun first second =>
    ∀ name ∈ claims setting first, name ∉ claims setting second

instance (setting : Setting) (operations : List Operation) :
    Decidable (Independent setting operations) :=
  inferInstanceAs (Decidable (operations.Pairwise _))

/-- Whether operations are independent does not depend on their order. -/
theorem Independent.of_perm {setting : Setting} {operations permuted : List Operation}
    (independent : Independent setting operations) (same : operations.Perm permuted) :
    Independent setting permuted :=
  same.pairwise independent fun apart name member shared => apart name shared member

end Bindery.Plan

namespace Bindery.Client

open Bindery.Api Bindery.Code Bindery.Plan Bindery.Steps

variable {setting : Setting} {modelsModule : String}

/-! ## Operations on their own -/

/-- What becomes of an operation when there is no other. -/
def outcomeAlone (setting : Setting) (modelsModule : String) (operation : Operation) :
    Except PlanError Outcome :=
  outcomeAfter setting modelsModule [] operation

/-- What comes before an operation does not matter if none of its names is defined there. -/
theorem outcomeAfter_eq_outcomeAlone {plans : List OperationPlan} {operation : Operation}
    (clear : ∀ plan, Plan.plan setting operation = .ok plan → plan.Clear plans) :
    outcomeAfter setting modelsModule plans operation =
      outcomeAlone setting modelsModule operation := by
  have same : planAfter setting plans operation = planAfter setting [] operation := by
    simp only [planAfter]
    cases planned : Plan.plan setting operation with
    | error error => rfl
    | ok plan =>
        have clear := clear plan planned
        dsimp only
        rw [clash?_eq_none_iff.2 clear, clash?_eq_none_iff.2 (clear.mono (List.nil_subset _))]
  simp only [outcomeAlone, outcomeAfter, same]

/-- The plan of an outcome is that of its operation alone. -/
theorem Settles.plan_of_mem_plan? {operation : Operation} {outcome : Outcome} {plan : OperationPlan}
    (settled : Settles setting modelsModule operation outcome) (found : plan ∈ outcome.plan?) :
    Plan.plan setting operation = .ok plan := by
  cases settled with
  | written planned =>
      cases found
      exact planned
  | unplanned => cases found
  | unwritten planned =>
      cases found
      exact planned

/-- What becomes of independent operations is what becomes of each of them alone. -/
theorem outcomesAfter_eq_mapM_outcomeAlone {plans : List OperationPlan}
    {operations : List Operation} (independent : Independent setting operations)
    (clear : ∀ operation ∈ operations, ∀ plan, Plan.plan setting operation = .ok plan →
      plan.Clear plans) :
    outcomesAfter setting modelsModule plans operations =
      operations.mapM (outcomeAlone setting modelsModule) := by
  induction operations generalizing plans with
  | nil => rfl
  | cons operation rest ih =>
      obtain ⟨apart, independent⟩ := List.pairwise_cons.1 independent
      rw [outcomesAfter, List.mapM_cons,
        outcomeAfter_eq_outcomeAlone (clear operation List.mem_cons_self)]
      cases alone : outcomeAlone setting modelsModule operation with
      | error error => rfl
      | ok outcome =>
          have settled : Settles setting modelsModule operation outcome :=
            settles_of_outcomeAfter alone
          have later : ∀ other ∈ rest, ∀ plan, Plan.plan setting other = .ok plan →
              plan.Clear (plans ++ outcome.plan?.toList) := by
            intro other member plan planned earlier before
            rcases List.mem_append.1 before with inPlans | here
            · exact clear other (List.mem_cons_of_mem _ member) plan planned earlier inPlans
            · intro name defined shared
              have found := settled.plan_of_mem_plan? (Option.mem_toList.1 here)
              refine apart other member name ?_ ?_
              · rw [claims_of_plan found]
                exact shared
              · rw [claims_of_plan planned]
                exact defined
          simp only [bind, Except.bind]
          rw [ih independent later]

/-- The outcomes of independent operations in another order are the same outcomes in that order. -/
theorem exists_outcomes_of_perm {operations permuted : List Operation} {results : List Outcome}
    (independent : Independent setting operations) (same : permuted.Perm operations)
    (known : outcomes setting modelsModule operations = .ok results) :
    ∃ others, outcomes setting modelsModule permuted = .ok others ∧
      operations.mapM (outcomeAlone setting modelsModule) = .ok results ∧
      permuted.mapM (outcomeAlone setting modelsModule) = .ok others ∧
      others.Perm results := by
  have nothing (some : List Operation) : ∀ operation ∈ some, ∀ plan,
      Plan.plan setting operation = .ok plan → plan.Clear [] := by
    intro operation _ plan _ earlier before
    cases before
  rw [outcomes, outcomesAfter_eq_mapM_outcomeAlone independent (nothing operations)] at known
  obtain ⟨others, alone, reordered⟩ := List.perm_comp_forall₂ same (mapM_eq_ok_iff.1 known)
  have found := mapM_eq_ok_iff.2 alone
  refine ⟨others, ?_, known, found, reordered⟩
  rw [outcomes, outcomesAfter_eq_mapM_outcomeAlone (independent.of_perm same.symm)
    (nothing permuted)]
  exact found

/-! ## The modules -/

/-- An endpoints module in parts: what it imports, what it exports, and the code of operations. -/
def endpointsOf (statements : List Import) (exported : List String) (items : List Item) :
    Module where
  documentation := none
  body :=
    (statements.map fun imports => .statement (.importFrom imports)) ++
    [.statement (exports exported)] ++
    items

theorem endpointsModule_ofOutcomes (results : List Outcome) :
    endpointsModule (Coverage.ofOutcomes results).codes =
      endpointsOf (Imports.all (results.map Outcome.imports)).statements
        (sorted (results.flatMap Outcome.exported)) (results.flatMap Outcome.items) := by
  simp only [endpointsModule, endpointsOf]
  rw [all_imports, flatMap_exported, flatMap_items]

/-- Of outcomes in another order the endpoints module has the same imports and exports. -/
theorem endpointsModule_ofOutcomes_of_perm {results others : List Outcome}
    (same : others.Perm results) :
    endpointsModule (Coverage.ofOutcomes others).codes =
      endpointsOf (Imports.all (results.map Outcome.imports)).statements
        (sorted (results.flatMap Outcome.exported)) (others.flatMap Outcome.items) := by
  rw [endpointsModule_ofOutcomes, Imports.statements_all_eq_of_perm (same.map _),
    sorted_eq_of_perm (same.flatMap_right _)]

/-- The package depends on which names the endpoints module defines, not on their order. -/
theorem packageModule_eq_of_perm (title modelsName endpointsName : String)
    (modelNames : List String) {first second : List String} (same : first.Perm second) :
    packageModule title modelsName endpointsName modelNames first =
      packageModule title modelsName endpointsName modelNames second := by
  have statements (others : Imports) :
      (others ++ packageImports endpointsName first).statements =
        (others ++ packageImports endpointsName second).statements := by
    simp only [packageImports, same.isEmpty_eq]
    split
    · rfl
    · refine Imports.statements_eq_of_mem_iff ?_ ?_
      · simp [Imports.from_, exists_or]
      · simp [Imports.from_, or_and_right, exists_or, same.mem_iff]
  have exported : ascending (publicRuntimeNames ++ modelNames ++ first) =
      ascending (publicRuntimeNames ++ modelNames ++ second) :=
    ascending_eq_of_mem_iff fun name => (same.append_left _).mem_iff
  simp only [packageModule]
  rw [statements, exported]

end Bindery.Client

namespace Bindery.Run

open Bindery.Api Bindery.Client Bindery.Code Bindery.Files Bindery.Loading Bindery.Plan
  Bindery.Steps

variable {compiler : Compiler} {settings : Settings} {document : Document} {tree after : Tree}
  {result : Result}

/-- The files of a run depend on which names the endpoints module defines, not on their order. -/
theorem WritesFiles.of_perm {module : Module} {first second : List String}
    {files : List Destination}
    (written : WritesFiles compiler settings document module first tree files after)
    (same : first.Perm second) :
    WritesFiles compiler settings document module second tree files after := by
  obtain ⟨url, parsed, modelled, changed, models, endpoints, runtime, package⟩ := written
  rw [packageModule_eq_of_perm _ _ _ _ same] at package
  exact .intro url parsed modelled changed models endpoints runtime package

/-- What operations a description has does not matter for the other files. -/
theorem writesFiles_withOperations_iff {operations : List Operation} {module : Module}
    {exported : List String} {files : List Destination} :
    WritesFiles compiler settings (withOperations document operations) module exported tree files
        after ↔
      WritesFiles compiler settings document module exported tree files after := by
  constructor
  all_goals
    rintro ⟨url, parsed, modelled, changed, models, endpoints, runtime, package⟩
    exact .intro url parsed modelled changed models endpoints runtime package

/-- What two runs have in common that differ in the order of independent operations.  What becomes
of each operation is what becomes of it alone; the endpoints modules have the same imports and
exports and hold the code of the operations in their orders; the other files are the same, and so
are the failures. -/
structure Reorders (compiler : Compiler) (settings : Settings) (document : Document)
    (permuted : List Operation) (tree : Tree) (result others : Result) (after afterwards : Tree) :
    Prop where
  files_eq : others.files = result.files
  failures_perm : others.failures.Perm result.failures
  blocks : ∃ results permutedResults statements exported,
    document.operations.mapM (outcomeAlone (.ofDocument settings.variant document)
      ("." ++ moduleName settings.modelsFile)) = .ok results ∧
    permuted.mapM (outcomeAlone (.ofDocument settings.variant document)
      ("." ++ moduleName settings.modelsFile)) = .ok permutedResults ∧
    permutedResults.Perm results ∧
    WritesFiles compiler settings document
      (endpointsOf statements exported (results.flatMap Outcome.items)) exported tree
      result.files after ∧
    WritesFiles compiler settings document
      (endpointsOf statements exported (permutedResults.flatMap Outcome.items)) exported tree
      others.files afterwards
  elsewhere : ∃ directory, Destination.parse settings.output = .ok directory ∧
    ∀ destination,
      after.spot? destination ≠ after.spot? (directory.join (.parse settings.endpointsFile)) →
      after.text? destination = afterwards.text? destination

/-- Independent operations can be planned and written in another order, and the endpoints modules
for the two orders have the same items. -/
theorem exists_permuted_coverage {permuted : List Operation} {results : List Outcome}
    (independent : Independent (.ofDocument settings.variant document) document.operations)
    (same : permuted.Perm document.operations)
    (known : outcomesOf settings document = .ok results) :
    ∃ permutedResults,
      coverageOf settings (withOperations document permuted) =
        .ok (Coverage.ofOutcomes permutedResults) ∧
      document.operations.mapM (outcomeAlone (.ofDocument settings.variant document)
        ("." ++ moduleName settings.modelsFile)) = .ok results ∧
      permuted.mapM (outcomeAlone (.ofDocument settings.variant document)
        ("." ++ moduleName settings.modelsFile)) = .ok permutedResults ∧
      permutedResults.Perm results ∧
      (endpointsModule (Coverage.ofOutcomes results).codes).body.Perm
        (endpointsModule (Coverage.ofOutcomes permutedResults).codes).body := by
  obtain ⟨permutedResults, found, alone, permutedAlone, reordered⟩ :=
    exists_outcomes_of_perm independent same known
  refine ⟨permutedResults, ?_, alone, permutedAlone, reordered, ?_⟩
  · rw [coverageOf_eq_map_outcomesOf, map_eq_ok_iff]
    exact ⟨permutedResults, found, rfl⟩
  · rw [endpointsModule_ofOutcomes, endpointsModule_ofOutcomes_of_perm reordered]
    exact (reordered.symm.flatMap_right _).append_left _

/-- Once its endpoints module can be compiled, the run for the other order goes like the first. -/
theorem exists_reorders {permuted : List Operation} {results permutedResults : List Outcome}
    (written : WritesFiles compiler settings document
      (endpointsModule (Coverage.ofOutcomes results).codes)
      (endpointNames (Coverage.ofOutcomes results).codes) tree result.files after)
    (failures : result.failures = (Coverage.ofOutcomes results).failures)
    (permutedCovered : coverageOf settings (withOperations document permuted) =
      .ok (Coverage.ofOutcomes permutedResults))
    (alone : document.operations.mapM (outcomeAlone (.ofDocument settings.variant document)
      ("." ++ moduleName settings.modelsFile)) = .ok results)
    (permutedAlone : permuted.mapM (outcomeAlone (.ofDocument settings.variant document)
      ("." ++ moduleName settings.modelsFile)) = .ok permutedResults)
    (reordered : permutedResults.Perm results)
    (sound : (endpointsModule (Coverage.ofOutcomes permutedResults).codes).Sound compiler) :
    ∃ others afterwards,
      (generateFrom compiler settings (withOperations document permuted)).Gives tree others
        afterwards ∧
      Reorders compiler settings document permuted tree result others after afterwards := by
  have names : (endpointNames (Coverage.ofOutcomes results).codes).Perm
      (endpointNames (Coverage.ofOutcomes permutedResults).codes) := by
    rw [flatMap_exported, flatMap_exported]
    exact reordered.symm.flatMap_right _
  have inOrder : (endpointNames (Coverage.ofOutcomes results).codes).Perm
      (sorted (results.flatMap Outcome.exported)) := by
    rw [flatMap_exported]
    exact (sorted_perm _).symm
  obtain ⟨afterwards, directory, again, parsed, elsewhere⟩ := written.exists_other sound
  refine ⟨_, afterwards, gives_generateFrom_of_writesFiles permutedCovered
    (writesFiles_withOperations_iff.2 (again.of_perm names)), rfl, ?_, ?_, directory, parsed,
    elsewhere⟩
  · rw [failures]
    exact (reordered.filterMap _).append (reordered.filterMap _)
  · rw [endpointsModule_ofOutcomes_of_perm reordered] at again
    rw [endpointsModule_ofOutcomes] at written
    exact ⟨results, permutedResults, _, _, alone, permutedAlone, reordered,
      written.of_perm inOrder, again.of_perm inOrder⟩

/-- A run for independent operations does the same with them in another order, if it gives a result
for that order.  It does so exactly if the endpoints module for that order can be compiled, which it
can if the name of the models module says what it seems to say. -/
theorem generateFrom_permuted {permuted : List Operation}
    (independent : Independent (.ofDocument settings.variant document) document.operations)
    (same : permuted.Perm document.operations)
    (done : (generateFrom compiler settings document).Gives tree result after) :
    ∃ coverage, coverageOf settings (withOperations document permuted) = .ok coverage ∧
      (isPlainName ("." ++ moduleName settings.modelsFile) = true →
        (endpointsModule coverage.codes).compiles compiler = true) ∧
      ((∃ others afterwards, (generateFrom compiler settings
          (withOperations document permuted)).Gives tree others afterwards) ↔
        (endpointsModule coverage.codes).compiles compiler = true) ∧
      ∀ others afterwards,
        (generateFrom compiler settings (withOperations document permuted)).Gives tree others
          afterwards →
        Reorders compiler settings document permuted tree result others after afterwards := by
  obtain ⟨coverage, covered, failures, written⟩ := gives_generateFrom done
  rw [coverageOf_eq_map_outcomesOf, map_eq_ok_iff] at covered
  obtain ⟨results, known, rfl⟩ := covered
  obtain ⟨permutedResults, permutedCovered, alone, permutedAlone, reordered, body⟩ :=
    exists_permuted_coverage independent same known
  have compiled (plain : isPlainName ("." ++ moduleName settings.modelsFile) = true) :
      (endpointsModule (Coverage.ofOutcomes permutedResults).codes).compiles compiler = true := by
    have whole := isPlain_endpointsModule permutedCovered plain
    exact (written.sound.of_perm body fun notPlain => by simp [whole] at notPlain).compiles
  have reorders
      (taken : (endpointsModule (Coverage.ofOutcomes permutedResults).codes).compiles compiler =
        true) :=
    exists_reorders written failures permutedCovered alone permutedAlone reordered
      (written.sound.of_perm body fun _ => taken)
  have taken {others : Result} {afterwards : Tree}
      (again : (generateFrom compiler settings (withOperations document permuted)).Gives tree others
        afterwards) :
      (endpointsModule (Coverage.ofOutcomes permutedResults).codes).compiles compiler = true := by
    obtain ⟨coverage, covered, -, written⟩ := gives_generateFrom again
    cases permutedCovered.symm.trans covered
    exact written.sound.compiles
  refine ⟨_, permutedCovered, compiled, ⟨fun ⟨_, _, again⟩ => taken again, fun compiles => ?_⟩,
    fun others afterwards again => ?_⟩
  · obtain ⟨others, afterwards, again, -⟩ := reorders compiles
    exact ⟨others, afterwards, again⟩
  · obtain ⟨_, _, found, reordered⟩ := reorders (taken again)
    cases found.symm.trans again
    exact reordered

/-- A shop with an operation that cannot be planned and one that cannot be written. -/
def petKiosk : Document :=
  withOperations petShop [
    { name := "feedPet", method := "post", parameters := [{ name := "food", location := .body }] },
    { name := "movePet", method := "post"
      parameters := [
        { name := "pet", location := .body }, { name := "place", location := .body }] },
    { name := "findPet", returnType := some { ref := some "Dog" } },
    { name := "listPets", path := "/pets" }]

/-- A run for the operations from last to first leaves the same models. -/
theorem petKiosk_permuted :
    ∃ result after others afterwards,
      (generateFrom .strict shopSettings petKiosk).Gives .empty result after ∧
      isPlainName ("." ++ moduleName shopSettings.modelsFile) = true ∧
      (generateFrom .strict shopSettings
        (withOperations petKiosk petKiosk.operations.reverse)).Gives .empty others afterwards ∧
      others.files = result.files ∧
      after.text? ⟨.memory, ⟨"/", ["shop", "models.py"]⟩⟩ =
        afterwards.text? ⟨.memory, ⟨"/", ["shop", "models.py"]⟩⟩ ∧
      others.failures.Perm result.failures ∧
      result.failures.length = 2 := by
  have lengths : ((generateFrom .strict shopSettings petKiosk).run.run .empty).1.toOption.map
      (·.failures.length) = some 2 := by
    decide +kernel
  have plain : isPlainName ("." ++ moduleName shopSettings.modelsFile) = true := by decide +kernel
  obtain ⟨result, after, done, length⟩ := Action.exists_gives lengths
  have independent :
      Independent (.ofDocument shopSettings.variant petKiosk) petKiosk.operations := by
    decide +kernel
  obtain ⟨coverage, -, compiled, gives_iff, common⟩ :=
    generateFrom_permuted independent petKiosk.operations.reverse_perm done
  obtain ⟨others, afterwards, again⟩ := gives_iff.2 (compiled plain)
  obtain ⟨files, failures, -, directory, parsed, elsewhere⟩ := common others afterwards again
  have inMemory : Destination.parse shopSettings.output = .ok ⟨.memory, ⟨"/", ["shop"]⟩⟩ := by
    decide +kernel
  rw [inMemory] at parsed
  cases parsed
  have apart : ["shop", "models.py"] ≠
      (Path.join ⟨"/", ["shop"]⟩ (.parse shopSettings.endpointsFile)).parts := by
    decide +kernel
  have models := elsewhere ⟨.memory, ⟨"/", ["shop", "models.py"]⟩⟩ fun same =>
    apart (congrArg Prod.snd (Except.ok.inj same))
  exact ⟨result, after, others, afterwards, done, plain, again, files, models, failures, length⟩

/-! ## Names of files that are code -/

/-- Settings with names of files the stems of which are more than the name of a module.  The import
of the models opens a string that the rest of the module goes on with. -/
def quotedSettings : Settings :=
  { shopSettings with modelsFile := "a import y; z='''.py", endpointsFile := "b'''; from .c.py" }

/-- An operation that gives a pet. -/
def givesPet (name description : String) : Operation where
  name := name
  description := some description
  returnType := some { ref := some "Pet" }

/-- A shop with descriptions that close and open the strings around them. -/
def quotedShop : Document where
  baseUrl := some "https://pets.test"
  schemas := [("Pet", {})]
  operations := [givesPet "ax" "'''\ndef f():\n    0 #", givesPet "bx" "''' ("]

/-- A compiler that takes what the language takes of the modules for the operations in their
order: in the other order the first description closes the string and leaves a bracket open. -/
def quotedCompiler : Compiler := fun text => text ∈ [
  "from ._runtime import Configuration, request_async, request_sync\n" ++
  "from .a import y; z=''' import Pet\n" ++
  "__all__ = ('aax', 'abx', 'ax', 'bx')\n\n" ++
  "def ax(configuration: Configuration) -> Pet:\n" ++
  "    \"\"\"'''\ndef f():\n    0 #\"\"\"\n" ++
  "    return request_sync(configuration, 'get', '/', response_model=Pet)\n\n" ++
  "async def aax(configuration: Configuration) -> Pet:\n" ++
  "    \"\"\"'''\ndef f():\n    0 #\"\"\"\n" ++
  "    return await request_async(configuration, 'get', '/', response_model=Pet)\n\n" ++
  "def bx(configuration: Configuration) -> Pet:\n" ++
  "    \"\"\"''' (\"\"\"\n" ++
  "    return request_sync(configuration, 'get', '/', response_model=Pet)\n\n" ++
  "async def abx(configuration: Configuration) -> Pet:\n" ++
  "    \"\"\"''' (\"\"\"\n" ++
  "    return await request_async(configuration, 'get', '/', response_model=Pet)\n",
  "\"\"\"API client generated by optsgen.\"\"\"\n" ++
  "from ._runtime import ApiError, BuilderConsumedError, Configuration, MissingParameterError\n" ++
  "from .a import y; z=''' import Pet\n" ++
  "from .b'''; from .c import aax, abx, ax, bx\n" ++
  "__all__ = ('ApiError', 'BuilderConsumedError', 'Configuration', 'MissingParameterError', " ++
  "'Pet', 'aax', 'abx', 'ax', 'bx')\n"]

/-- A run gives a result for independent operations and none for them in the other order. -/
theorem quotedShop_not_permuted :
    Independent (.ofDocument quotedSettings.variant quotedShop) quotedShop.operations ∧
    (∃ result after,
      (generateFrom quotedCompiler quotedSettings quotedShop).Gives .empty result after) ∧
    ¬ ∃ others afterwards,
      (generateFrom quotedCompiler quotedSettings
        (withOperations quotedShop quotedShop.operations.reverse)).Gives .empty others
          afterwards := by
  have failures : ((generateFrom quotedCompiler quotedSettings quotedShop).run.run
      .empty).1.toOption.map (·.failures.length) = some 0 := by
    decide +kernel
  have refused : ((generateFrom quotedCompiler quotedSettings (withOperations quotedShop
      quotedShop.operations.reverse)).run.run .empty).1.toOption.isNone = true := by
    decide +kernel
  obtain ⟨result, after, done, -⟩ := Action.exists_gives failures
  refine ⟨by decide +kernel, ⟨result, after, done⟩, ?_⟩
  rintro ⟨others, afterwards, again⟩
  rw [Action.Gives] at again
  rw [again] at refused
  cases refused

end Bindery.Run

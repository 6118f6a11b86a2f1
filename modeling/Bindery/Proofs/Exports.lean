import Bindery.Proofs.Canonical
import Bindery.Proofs.Lines
import Bindery.Proofs.NamedImports
import Bindery.Proofs.Writes

/-!
# What the modules of a client export

A module lists its exports beside its statements, and nothing ties the two to each other.  The
endpoints module lists what its classes and functions are called, in order; the package lists what
it imports from the modules beside it; and it imports from each of these what that module lists.
-/

namespace Bindery.Code

/-! ## Modules -/

/-- A module exports exactly these names, and lists them in strict order. -/
structure Module.Exports (names : List String) (module : Module) : Prop where
  increasing : module.exportedNames.Pairwise (· < ·)
  mem_iff : ∀ name, name ∈ module.exportedNames ↔ name ∈ names

/-- A module imports a name from the module that a path leads to. -/
def Module.ImportsAlong (module : Module) (path : ModulePath) (name : String) : Prop :=
  ∃ source, ModulePath.ofName? source = some path ∧ module.ImportsFrom source name

/-- A module binds by import statements what it imports from some source. -/
theorem Module.mem_importedNames_iff {module : Module} {name : String} :
    name ∈ module.importedNames ↔ ∃ source, module.ImportsFrom source name := by
  simp only [importedNames, List.mem_flatMap, ImportsFrom]
  constructor
  · rintro ⟨statement, inImports, inside⟩
    exact ⟨statement.module, statement, inImports, rfl, inside⟩
  · rintro ⟨-, statement, inImports, -, inside⟩
    exact ⟨statement, inImports, inside⟩

end Bindery.Code

namespace Bindery.Client

open Bindery.Api Bindery.Code Bindery.Naming Bindery.Plan Bindery.Steps

/-! ## The modules of a client -/

theorem exportedNames_modelsModule (models : List Model) :
    (modelsModule models).exportedNames = sorted (models.map (·.name)) := by
  have imports (statements : List Import) :
      (statements.map fun imports => Item.statement (.importFrom imports)).flatMap
        Item.exported = [] := by
    simp [List.flatMap_eq_nil_iff, Item.exported]
  have classes : (models.map fun model => Item.class_ model.definition).flatMap
      Item.exported = [] := by
    simp [List.flatMap_eq_nil_iff, Item.exported]
  have rebuilds : (models.map (·.rebuild)).flatMap Item.exported = [] := by
    simp [List.flatMap_eq_nil_iff, Item.exported, Model.rebuild]
  simp only [Module.exportedNames, modelsModule]
  rw [List.cons_append, List.cons_append, List.cons_append, List.flatMap_cons, List.flatMap_append,
    List.flatMap_append, List.flatMap_append, imports, classes, rebuilds, List.flatMap_singleton,
    exported_exports, List.nil_append, List.append_nil, List.append_nil]
  rfl

variable {setting : Setting} {modelsModule : String} {operations : List Operation}
  {coverage : Coverage}

/-- The endpoints module exports the classes and functions that it defines. -/
theorem exports_endpointsModule
    (covered : cover setting modelsModule operations = .ok coverage) :
    (endpointsModule coverage.codes).Exports (endpointsModule coverage.codes).definedNames where
  increasing := by
    rw [exportedNames_endpointsModule]
    exact pairwise_lt_sorted (nodup_endpointNames covered)
  mem_iff name := by
    rw [exportedNames_endpointsModule, (sorted_perm _).mem_iff,
      (definedNames_perm_endpointNames covered).mem_iff]

section

variable {title modelsName endpointsName : String} {modelNames endpointNames : List String}

theorem exportedNames_packageModule :
    (packageModule title modelsName endpointsName modelNames endpointNames).exportedNames =
      ascending (publicRuntimeNames ++ modelNames ++ endpointNames) := by
  have nothing (statements : List Import) :
      (statements.map fun imports => Item.statement (.importFrom imports)).flatMap
        Item.exported = [] := by
    simp [List.flatMap_eq_nil_iff, Item.exported]
  simp only [Module.exportedNames, packageModule]
  rw [List.flatMap_append, nothing, List.nil_append, List.flatMap_singleton, exported_exports]

/-- The package exports what it imports. -/
theorem exports_packageModule :
    (packageModule title modelsName endpointsName modelNames endpointNames).Exports
      (packageModule title modelsName endpointsName modelNames endpointNames).importedNames where
  increasing := by
    rw [exportedNames_packageModule]
    exact pairwise_lt_ascending _
  mem_iff name := by
    simp only [mem_exportedNames_packageModule, Module.mem_importedNames_iff,
      importsFrom_packageModule_iff]
    constructor
    · rintro (isPublic | isModel | isEndpoint)
      · exact ⟨_, .inl ⟨rfl, isPublic⟩⟩
      · exact ⟨_, .inr (.inl ⟨rfl, isModel⟩)⟩
      · exact ⟨_, .inr (.inr ⟨rfl, isEndpoint⟩)⟩
    · rintro ⟨_, ⟨-, isPublic⟩ | ⟨-, isModel⟩ | ⟨-, isEndpoint⟩⟩
      · exact .inl isPublic
      · exact .inr (.inl isModel)
      · exact .inr (.inr isEndpoint)

end

end Bindery.Client

namespace Bindery.Run

open Bindery.Api Bindery.Client Bindery.Code Bindery.Files Bindery.Naming Bindery.Plan

variable {compiler : Compiler} {settings : Settings} {document : Document} {module : Module}
  {exported : List String}
  {tree after : Tree} {files : List Destination} {result : Result}

theorem WritesFiles.exists_baseUrl
    (written : WritesFiles compiler settings document module exported tree files after) :
    ∃ url, baseUrl settings document = .ok url := by
  obtain ⟨found, -⟩ := written
  exact ⟨_, found⟩

/-- The path of the runtime module from the modules beside it. -/
def runtimePath : ModulePath := ⟨1, ["_runtime"]⟩

theorem ofName?_runtime : ModulePath.ofName? "._runtime" = some runtimePath := by
  decide +kernel

/-- What a client exports, given the paths to its models module and its endpoints module.  The
endpoints module exports what it defines, and the package what it imports, all of it from the
modules beside it.  From each of these the package imports what that module exports, and no import
statement is without a name. -/
structure ExportsMatch (settings : Settings) (document : Document) (models : List Model)
    (coverage : Coverage) (url : String) (modelsPath endpointsPath : ModulePath) : Prop where
  endpoints : (endpointsModule coverage.codes).Exports (endpointsModule coverage.codes).definedNames
  package : (packageOf settings document models coverage).Exports
    (packageOf settings document models coverage).importedNames
  sources : ∀ source name,
    (packageOf settings document models coverage).ImportsFrom source name →
      ∃ path ∈ [runtimePath, modelsPath, endpointsPath], ModulePath.ofName? source = some path
  fromRuntime : ∀ name,
    (packageOf settings document models coverage).ImportsAlong runtimePath name →
      name ∈ runtimeNames
  fromModels : ∀ name, (packageOf settings document models coverage).ImportsAlong modelsPath name ↔
    name ∈ (modelsModule models).exportedNames
  fromEndpoints : ∀ name,
    (packageOf settings document models coverage).ImportsAlong endpointsPath name ↔
      name ∈ (endpointsModule coverage.codes).exportedNames
  named : ∀ module ∈ [modelsModule models, endpointsModule coverage.codes,
      packageOf settings document models coverage],
    ∀ statement ∈ module.imports, statement.names ≠ []
  runtimeText : "\n".intercalate (runtimeLines url) = Client.runtimeText url
  runtimeExports : (exports runtimeNames).render ∈ runtimeLines url
  runtimeNamed : ∀ line ∈ runtimeLines url, ImportsAt line →
    line = "import httpx" ∨ ∃ statement : Import, statement.names ≠ [] ∧ line = statement.render

variable {modelsPath endpointsPath : ModulePath} {models : List Model} {coverage : Coverage}

/-- What the package imports along a path, if its modules are at different paths. -/
theorem importsAlong_packageOf_iff
    (ofModels : ModulePath.ofName? ("." ++ moduleName settings.modelsFile) = some modelsPath)
    (ofEndpoints : ModulePath.ofName? ("." ++ moduleName settings.endpointsFile) =
      some endpointsPath)
    {path : ModulePath} {name : String} :
    (packageOf settings document models coverage).ImportsAlong path name ↔
      (path = runtimePath ∧ name ∈ publicRuntimeNames) ∨
        (path = modelsPath ∧ name ∈ models.map (·.name)) ∨
        (path = endpointsPath ∧ name ∈ endpointNames coverage.codes) := by
  simp only [Module.ImportsAlong, packageOf, importsFrom_packageModule_iff]
  constructor
  · rintro ⟨source, leads, ⟨rfl, inside⟩ | ⟨rfl, inside⟩ | ⟨rfl, inside⟩⟩
    · cases ofName?_runtime.symm.trans leads
      exact .inl ⟨rfl, inside⟩
    · cases ofModels.symm.trans leads
      exact .inr (.inl ⟨rfl, inside⟩)
    · cases ofEndpoints.symm.trans leads
      exact .inr (.inr ⟨rfl, inside⟩)
  · rintro (⟨rfl, inside⟩ | ⟨rfl, inside⟩ | ⟨rfl, inside⟩)
    · exact ⟨_, ofName?_runtime, .inl ⟨rfl, inside⟩⟩
    · exact ⟨_, ofModels, .inr (.inl ⟨rfl, inside⟩)⟩
    · exact ⟨_, ofEndpoints, .inr (.inr ⟨rfl, inside⟩)⟩

/-- The exports of a client match its imports if the names of its modules say what they seem to say
and lead to three different modules. -/
theorem exports_match_imports
    (done : (generateFrom compiler settings document).Gives tree result after)
    (ofModels : ModulePath.ofName? ("." ++ moduleName settings.modelsFile) = some modelsPath)
    (ofEndpoints : ModulePath.ofName? ("." ++ moduleName settings.endpointsFile) =
      some endpointsPath)
    (apart : [modelsPath, endpointsPath, runtimePath].Nodup) :
    ∃ coverage models url,
      coverageOf settings document = .ok coverage ∧ modelsOf document = .ok models ∧
      baseUrl settings document = .ok url ∧
      WritesFiles compiler settings document (endpointsModule coverage.codes)
        (endpointNames coverage.codes) tree result.files after ∧
      ExportsMatch settings document models coverage url modelsPath endpointsPath := by
  obtain ⟨coverage, covered, -, written⟩ := gives_generateFrom done
  obtain ⟨models, made⟩ := written.exists_modelsOf
  obtain ⟨url, found⟩ := written.exists_baseUrl
  simp only [List.nodup_cons, List.mem_cons, List.not_mem_nil, or_false, not_or, not_false_eq_true,
    List.nodup_nil, and_true] at apart
  obtain ⟨⟨notEndpoints, modelsApart⟩, endpointsApart⟩ := apart
  refine ⟨coverage, models, url, covered, made, found, written, ?exported⟩
  constructor
  case endpoints => exact exports_endpointsModule covered
  case package => exact exports_packageModule
  case sources =>
    intro source name imported
    rcases importsFrom_packageModule_iff.1 imported with ⟨rfl, -⟩ | ⟨rfl, -⟩ | ⟨rfl, -⟩
    · exact ⟨_, by simp, ofName?_runtime⟩
    · exact ⟨_, by simp, ofModels⟩
    · exact ⟨_, by simp, ofEndpoints⟩
  case fromRuntime =>
    intro name imported
    have isPublic : name ∈ publicRuntimeNames := by
      simpa [importsAlong_packageOf_iff ofModels ofEndpoints, Ne.symm modelsApart,
        Ne.symm endpointsApart] using imported
    exact (by decide : publicRuntimeNames ⊆ runtimeNames) isPublic
  case fromModels =>
    intro name
    rw [exportedNames_modelsModule, (sorted_perm _).mem_iff,
      importsAlong_packageOf_iff ofModels ofEndpoints]
    simp [modelsApart, notEndpoints]
  case fromEndpoints =>
    intro name
    rw [exportedNames_endpointsModule, (sorted_perm _).mem_iff,
      importsAlong_packageOf_iff ofModels ofEndpoints]
    simp [endpointsApart, Ne.symm notEndpoints]
  case named =>
    simp only [List.forall_mem_cons]
    exact ⟨names_ne_nil_modelsModule made, names_ne_nil_endpointsModule covered,
      names_ne_nil_packageModule, by simp⟩
  case runtimeText => exact intercalate_runtimeLines url
  case runtimeExports => simp [runtimeLines]
  case runtimeNamed =>
    have named : ∀ statement ∈ runtimeImports, statement.names ≠ [] := by decide
    intro line member imports
    refine (runtime_importsAt member imports).imp_right ?_
    rintro ⟨statement, inImports, same⟩
    exact ⟨statement, named statement inImports, same⟩

/-- The shop exports a model, and what it has for two operations. -/
theorem petShop_exports_match_imports :
    ∃ result after coverage models url,
      (generateFrom .strict shopSettings petShop).Gives .empty result after ∧
      ModulePath.ofName? ("." ++ moduleName shopSettings.modelsFile) = some ⟨1, ["models"]⟩ ∧
      ModulePath.ofName? ("." ++ moduleName shopSettings.endpointsFile) =
        some ⟨1, ["endpoints"]⟩ ∧
      [⟨1, ["models"]⟩, ⟨1, ["endpoints"]⟩, runtimePath].Nodup ∧
      coverageOf shopSettings petShop = .ok coverage ∧ modelsOf petShop = .ok models ∧
      ExportsMatch shopSettings petShop models coverage url ⟨1, ["models"]⟩ ⟨1, ["endpoints"]⟩ := by
  obtain ⟨result, after, done, -⟩ := exists_gives_petShop
  have ofModels : ModulePath.ofName? ("." ++ moduleName shopSettings.modelsFile) =
      some ⟨1, ["models"]⟩ := by
    decide +kernel
  have ofEndpoints : ModulePath.ofName? ("." ++ moduleName shopSettings.endpointsFile) =
      some ⟨1, ["endpoints"]⟩ := by
    decide +kernel
  obtain ⟨coverage, models, url, covered, made, -, -, exported⟩ :=
    exports_match_imports done ofModels ofEndpoints (by decide)
  exact ⟨result, after, coverage, models, url, done, ofModels, ofEndpoints, by decide, covered,
    made, exported⟩

/-- Settings that give two files whose names differ in a space. -/
def spacedSettings : Settings := { shopSettings with endpointsFile := "models .py" }

/-- Of two files whose names differ in a space alone, the package imports from one module.  The
models module is there, and it does not export the functions that are imported from it. -/
theorem spaced_exports_mixed :
    ∃ result after coverage models,
      (generateFrom .strict spacedSettings petShop).Gives .empty result after ∧
      result.files.map (·.text) = ["memory://shop/models.py", "memory://shop/models .py",
        "memory://shop/_runtime.py", "memory://shop/__init__.py"] ∧
      moduleName spacedSettings.modelsFile ≠ moduleName spacedSettings.endpointsFile ∧
      "_runtime" ∉ [moduleName spacedSettings.modelsFile, moduleName spacedSettings.endpointsFile] ∧
      coverageOf spacedSettings petShop = .ok coverage ∧ modelsOf petShop = .ok models ∧
      (packageOf spacedSettings petShop models coverage).ImportsAlong ⟨1, ["models"]⟩ "storePet" ∧
      "storePet" ∉ (modelsModule models).exportedNames := by
  have written : ((generateFrom .strict spacedSettings petShop).run.run .empty).1.toOption.map
      (·.files.map (·.text)) = some ["memory://shop/models.py", "memory://shop/models .py",
        "memory://shop/_runtime.py", "memory://shop/__init__.py"] := by
    decide +kernel
  have operations : (coverageOf spacedSettings petShop).toOption.map (endpointNames ·.codes) =
      some ["storePet", "astorePet", "StorePetParams", "StorePetParamsBuilder", "listPets",
        "alistPets"] := by
    decide +kernel
  have classes : (modelsOf petShop).toOption.map (·.map (·.name)) = some ["Pet"] := by
    decide +kernel
  have ofModels : ModulePath.ofName? ("." ++ moduleName spacedSettings.modelsFile) =
      some ⟨1, ["models"]⟩ := by
    decide +kernel
  have ofEndpoints : ModulePath.ofName? ("." ++ moduleName spacedSettings.endpointsFile) =
      some ⟨1, ["models"]⟩ := by
    decide +kernel
  obtain ⟨result, after, done, files⟩ := Action.exists_gives written
  obtain ⟨coverage, covered, names⟩ := Steps.toOption_map_eq_some_iff.1 operations
  obtain ⟨models, made, named⟩ := Steps.toOption_map_eq_some_iff.1 classes
  refine ⟨result, after, coverage, models, done, files, by decide +kernel, by decide +kernel,
    covered, made, ?_, ?_⟩
  · refine (importsAlong_packageOf_iff ofModels ofEndpoints).2 (.inr (.inr ⟨rfl, ?_⟩))
    rw [names]
    decide
  · rw [exportedNames_modelsModule, (sorted_perm _).mem_iff, named]
    decide

end Bindery.Run

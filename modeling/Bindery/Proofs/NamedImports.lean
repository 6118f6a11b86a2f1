import Bindery.Proofs.ImportStatements
import Bindery.Proofs.Origins
import Bindery.Proofs.Requested

/-!
# Imports of the modules of a client

No import statement of a client is without a name, since every request that its code makes is for
some name.  And the statements of the endpoints module say what they seem to say if the name of the
models module does, as all other modules that it imports from have fixed names.
-/

namespace Bindery.Code

/-! ## Statements that name something -/

namespace Imports

/-- Requests for names lead to statements with names. -/
theorem Full.names_ne_nil {imports : Imports} (full : imports.Full) {statement : Import}
    (member : statement ∈ imports.statements) : statement.names ≠ [] := by
  have canonical := canonical_statements full
  obtain ⟨-, name, asked⟩ := (canonical.complete statement.module).1 ⟨statement, member, rfl⟩
  exact List.ne_nil_of_mem ((canonical.mem_iff statement member name).2 asked)

theorem Full.all {pieces : List Imports} (each : ∀ piece ∈ pieces, piece.Full) :
    (Imports.all pieces).Full := by
  intro request member
  obtain ⟨piece, inPieces, asked⟩ := List.mem_flatMap.1 member
  exact each piece inPieces request asked

theorem Full.append {first second : Imports} (left : first.Full) (right : second.Full) :
    (first ++ second).Full :=
  fun request member => (List.mem_append.1 member).elim (left request) (right request)

theorem full_from_ {module : String} {names : List String} (some_name : names ≠ []) :
    (from_ module names).Full := by
  intro request member
  cases List.mem_singleton.1 member
  exact some_name

end Imports

/-! ## Statements that say what they seem to say -/

theorem Item.statement_importFrom_of_import? {item : Item} {statement : Import}
    (found : item.import? = some statement) : item = .statement (.importFrom statement) := by
  cases item with
  | statement line =>
      cases line with
      | importFrom imports =>
          cases found
          rfl
      | pass | evaluate | assign | declare | result => cases found
  | function => cases found
  | class_ => cases found

/-- Only its import statements can keep a module from being plain. -/
theorem Module.isPlain_iff {module : Module} :
    module.isPlain = true ↔
      ∀ statement ∈ module.imports, isPlainName statement.module = true := by
  simp only [isPlain, List.all_eq_true, imports, List.mem_filterMap]
  constructor
  · rintro plain statement ⟨item, member, found⟩
    have here := plain item member
    rw [Item.statement_importFrom_of_import? found] at here
    exact here
  · intro plain item member
    cases item with
    | statement line =>
        cases line with
        | importFrom imports => exact plain imports ⟨_, member, rfl⟩
        | pass | evaluate | assign | declare | result => rfl
    | function | class_ => rfl

end Bindery.Code

namespace Bindery.Typing

open Bindery.Code

/-- What annotations ask for are names. -/
theorem closed_full (models : Models) : Closed models fun type => type.imports.Full where
  any := Imports.full_from_ (by simp)
  literal _ := Imports.full_from_ (by simp)
  primitive primitive := by
    intro request member
    revert request
    cases primitive <;> decide
  model _ _ := by
    intro request member
    cases member
  listOf _ full := full
  dictOf _ full := full
  optional type full := by
    rw [Mapped.optional_imports]
    exact full

/-- The modules that annotations are imported from. -/
theorem closed_annotationModule (models : Models) :
    Closed models fun type =>
      ∀ request ∈ type.imports.requests, request.1 ∈ ["datetime", "typing", "uuid"] where
  any := by decide
  literal _ := by
    intro request member
    cases List.mem_singleton.1 member
    decide
  primitive primitive := by cases primitive <;> decide
  model _ _ := by
    intro request member
    cases member
  listOf _ inside := inside
  dictOf _ inside := inside
  optional type inside := by
    rw [Mapped.optional_imports]
    exact inside

end Bindery.Typing

namespace Bindery.Client

open Bindery.Api Bindery.Code Bindery.Naming Bindery.Plan Bindery.Steps Bindery.Typing

variable {setting : Setting} {modelsModule : String} {operations : List Operation}
  {coverage : Coverage} {document : Document} {models : List Model}

/-- What the code of operations asks for has one of the known reasons. -/
theorem requests_of_mem_codes (covered : cover setting modelsModule operations = .ok coverage)
    {request : String × List String}
    (asked : request ∈ (Imports.all (coverage.codes.map (·.imports))).requests) :
    ∃ operation names types, mapTypes setting.models operation = .ok types ∧
      Requests modelsModule (.assemble operation names types) request := by
  obtain ⟨_, ofCode, asked⟩ := mem_requests_all.1 asked
  obtain ⟨code, inCodes, rfl⟩ := List.mem_map.1 ofCode
  obtain ⟨operation, -, planned, made⟩ := exists_planned_of_mem_codes covered inCodes
  obtain ⟨names, types, -, mapped, assembled⟩ := plan_eq_ok_iff.1 planned
  rw [assembled] at made
  exact ⟨operation, names, types, mapped, requests_of_mem_imports rfl made asked⟩

/-- The import statements of the endpoints module name something. -/
theorem names_ne_nil_endpointsModule
    (covered : cover setting modelsModule operations = .ok coverage) :
    ∀ statement ∈ (endpointsModule coverage.codes).imports, statement.names ≠ [] := by
  rw [imports_endpointsModule]
  refine fun statement => Imports.Full.names_ne_nil fun request asked => ?_
  obtain ⟨operation, names, types, mapped, requested⟩ := requests_of_mem_codes covered asked
  cases requested with
  | fixed member => exact (by decide : ∀ request ∈ fixedRequests, request.2 ≠ []) request member
  | annotating inTypes asked => exact (closed_full _).types mapped names _ inTypes request asked
  | modelling _ some_model => exact some_model

/-- The endpoints module is plain if the name of the models module is. -/
theorem isPlain_endpointsModule (covered : cover setting modelsModule operations = .ok coverage)
    (plain : isPlainName modelsModule = true) :
    (endpointsModule coverage.codes).isPlain = true := by
  have known : ∀ module ∈ fixedRequests.map (·.1) ++ ["datetime", "typing", "uuid"],
      isPlainName module = true := by
    decide +kernel
  rw [Module.isPlain_iff, imports_endpointsModule]
  intro statement member
  obtain ⟨module, emitted, rfl⟩ := Imports.mem_statements.1 member
  obtain ⟨asked, request⟩ := Imports.mem_modules.1 (List.mem_filter.1 emitted).1
  rw [Imports.module_statement]
  obtain ⟨operation, names, types, mapped, requested⟩ := requests_of_mem_codes covered request
  cases requested with
  | fixed member => exact known _ (List.mem_append_left _ (List.mem_map_of_mem member))
  | annotating inTypes asked =>
      have home := (closed_annotationModule _).types mapped names _ inTypes _ asked
      exact known _ (List.mem_append_right _ home)
  | modelling => exact plain

/-- The import statements of the models module name something. -/
theorem names_ne_nil_modelsModule (made : modelsOf document = .ok models) :
    ∀ statement ∈ (Client.modelsModule models).imports, statement.names ≠ [] := by
  rw [imports_modelsModule, List.forall_mem_cons]
  refine ⟨by simp, fun statement => Imports.Full.names_ne_nil (.all fun piece ofPiece => ?_)⟩
  obtain ⟨model, inModels, rfl⟩ := List.mem_map.1 ofPiece
  refine .append (Imports.full_from_ (by decide)) (.all fun piece ofPiece => ?_)
  obtain ⟨field, inFields, rfl⟩ := List.mem_map.1 ofPiece
  exact fieldType_of_modelsOf (closed_full _) made model inModels field inFields

/-- The import statements of the package name something. -/
theorem names_ne_nil_packageModule {title modelsName endpointsName : String}
    {modelNames endpointNames : List String} :
    ∀ statement ∈
      (packageModule title modelsName endpointsName modelNames endpointNames).imports,
      statement.names ≠ [] := by
  have full (module : String) (names : List String) : (packageImports module names).Full := by
    simp only [packageImports]
    split
    · intro request member
      cases member
    · next some_name => exact Imports.full_from_ fun none => some_name (List.isEmpty_iff.2 none)
  rw [imports_packageModule]
  exact fun statement =>
    Imports.Full.names_ne_nil (((full _ _).append (full _ _)).append (full _ _))

end Bindery.Client

import Bindery.Client.Models
import Bindery.Code.ModulePath
import Bindery.Proofs.Scope

/-!
# The model classes that modules refer to

A declared type may mention schemas at any depth, and every class of a schema that the types of an
operation mention is imported from the models module.  The models module imports none of them: it
defines a class for every schema, and what the properties of a schema mention is defined beside it.
-/

namespace Bindery.Code

namespace Imports

/-- The statement for a module names that module. -/
theorem module_statement (imports : Imports) (module : String) :
    (imports.statement module).module = module := by
  have dots : List.replicate (module.toList.takeWhile (· = '.')).length '.' =
      module.toList.takeWhile (· = '.') := by
    refine (List.eq_replicate_iff.2 ⟨rfl, fun c member => ?_⟩).symm
    have isDot := List.mem_takeWhile_imp member
    exact of_decide_eq_true isDot
  simp only [Import.module, statement]
  rw [dots, String.toList_ofList, List.takeWhile_append_dropWhile, String.ofList_toList]

/-- A name that is asked for is named by a statement for its module. -/
theorem exists_statement_of_mem_requests {imports : Imports} {module name : String}
    {names : List String} (asked : (module, names) ∈ imports.requests) (member : name ∈ names)
    (emitted : module ≠ "builtins") :
    ∃ statement ∈ imports.statements, statement.module = module ∧ name ∈ statement.names := by
  have inModules : module ∈ imports.emittedModules := by
    simp only [emittedModules, List.mem_filter, mem_modules, decide_eq_true_eq]
    exact ⟨⟨names, asked⟩, emitted⟩
  refine ⟨_, mem_statements.2 ⟨module, inModules, rfl⟩, module_statement imports module, ?_⟩
  exact mem_names.2 ⟨names, asked, member⟩

end Imports

end Bindery.Code

namespace Bindery.Typing

open Bindery.Api Bindery.Code Bindery.Plan Bindery.Steps

/-! ## Schemas that types mention -/

/-- A declared type that mentions a schema: by a reference, or in the type of its items or of its
values.  What a reference or an enumeration passes over mentions nothing. -/
inductive Mentions : TypeRef → String → Prop where
  | reference {type : TypeRef} {ref schema : String} :
      type.ref = some ref → Models.target ref = schema → Mentions type schema
  | item {type inner : TypeRef} {schema : String} :
      type.ref = none → type.enum.getD [] = [] → type.type = some "array" →
      type.items = some inner → Mentions inner schema → Mentions type schema
  | value {type inner : TypeRef} {schema : String} :
      type.ref = none → type.enum.getD [] = [] → type.type = some "object" →
      type.additionalProperties = some inner → Mentions inner schema → Mentions type schema

theorem mem_models_of_widened {core mapped : Mapped} {nullable : Bool} {className : String}
    (widened : (if nullable then core.optional else core) = mapped)
    (member : className ∈ core.models) : className ∈ mapped.models := by
  rw [← widened]
  split
  · rwa [Mapped.optional_models]
  · exact member

/-- The annotation of a type knows the class of every schema that the type mentions. -/
theorem exists_mem_models_of_mentions {models : Models} {type : TypeRef} {schema : String}
    (mentions : Mentions type schema) :
    ∀ {mapped : Mapped}, models.map type = .ok mapped →
      ∃ className, models.className? schema = some className ∧ className ∈ mapped.models := by
  -- The induction is on the mention and not on the type: it leads into one part of the type only.
  induction mentions with
  | @reference type ref schema isReference isTarget =>
      intro mapped done
      rw [Models.map_eq] at done
      obtain ⟨core, found, widened⟩ := map_eq_ok_iff.1 done
      simp only [Models.bare, isReference, isTarget] at found
      split at found
      · next className there =>
          cases found
          exact ⟨className, there, mem_models_of_widened widened (List.mem_singleton_self _)⟩
      · cases found
  | @item type inner schema noReference noValues isArray isItem _ ih =>
      intro mapped done
      rw [Models.map_eq] at done
      obtain ⟨core, found, widened⟩ := map_eq_ok_iff.1 done
      simp only [Models.bare, noReference, noValues, isArray, isItem] at found
      obtain ⟨element, there, rfl⟩ := map_eq_ok_iff.1 found
      obtain ⟨className, isClass, member⟩ := ih there
      exact ⟨className, isClass, mem_models_of_widened widened member⟩
  | @value type inner schema noReference noValues isObject isValue _ ih =>
      intro mapped done
      rw [Models.map_eq] at done
      obtain ⟨core, found, widened⟩ := map_eq_ok_iff.1 done
      simp only [Models.bare, noReference, noValues, isObject, isValue] at found
      obtain ⟨value, there, rfl⟩ := map_eq_ok_iff.1 found
      obtain ⟨className, isClass, member⟩ := ih there
      exact ⟨className, isClass, mem_models_of_widened widened member⟩

/-- The types that an operation declares: those of its parameters, of its result and of its
error. -/
def declaredTypes (operation : Operation) : List TypeRef :=
  operation.parameters.map (·.type) ++ operation.returnType.toList ++ operation.errorType.toList

/-- Every declared type of an operation that can be planned has its annotation in the plan. -/
theorem exists_mem_types_of_mem_declaredTypes {setting : Setting} {operation : Operation}
    {names : Names} {types : OperationTypes} {usesOptions : Bool}
    (resolved : names.Resolved setting.reserved operation usesOptions)
    (mapped : mapTypes setting.models operation = .ok types) {type : TypeRef}
    (member : type ∈ declaredTypes operation) :
    ∃ found ∈ (OperationPlan.assemble operation names types).types,
      setting.models.map type = .ok found := by
  have ofPart {part : String} {type : Option TypeRef} {found : Option Mapped}
      (done : mapPart? setting.models operation.name part type = .ok found) {declared : TypeRef}
      (isType : declared ∈ type) : ∃ shown ∈ found, setting.models.map declared = .ok shown := by
    cases isType
    obtain ⟨shown, there, rfl⟩ := map_eq_ok_iff.1 done
    exact ⟨shown, rfl, mapError_eq_ok_iff.1 there⟩
  obtain ⟨-, returnType, errorType⟩ := mapTypes_eq_ok_iff.1 mapped
  simp only [declaredTypes, List.mem_append, Option.mem_toList] at member
  simp only [OperationPlan.types, List.mem_append, Option.mem_toList]
  rcases member with (inParameters | inReturn) | inError
  · obtain ⟨parameter, isParameter, rfl⟩ := List.mem_map.1 inParameters
    obtain ⟨field, inFields, belongs⟩ :=
      exists_mem_of_forall₂ (fields_of_resolved resolved mapped).1.flip isParameter
    refine ⟨field.type, .inl (.inl ?_), belongs.map_eq⟩
    simp only [OperationPlan.assemble, List.map_map]
    exact List.mem_map_of_mem inFields
  · obtain ⟨shown, isShown, found⟩ := ofPart returnType inReturn
    exact ⟨shown, .inl (.inr isShown), found⟩
  · obtain ⟨shown, isShown, found⟩ := ofPart errorType inError
    exact ⟨shown, .inr isShown, found⟩

end Bindery.Typing

namespace Bindery.Client

open Bindery.Api Bindery.Code Bindery.Plan Bindery.Steps Bindery.Typing

/-- The endpoints module imports the class of every schema that a type of an operation mentions from
the models module. -/
theorem exists_import_of_mentions {setting : Setting} {modelsModule : String}
    {operations : List Operation} {coverage : Coverage} (emitted : modelsModule ≠ "builtins")
    (covered : cover setting modelsModule operations = .ok coverage) {code : OperationCode}
    (inCodes : code ∈ coverage.codes) {type : TypeRef}
    (isType : type ∈ declaredTypes code.plan.operation) {schema : String}
    (mentions : Mentions type schema) :
    ∃ className, setting.models.className? schema = some className ∧
      ∃ statement ∈ (endpointsModule coverage.codes).imports,
        statement.module = modelsModule ∧ className ∈ statement.names := by
  obtain ⟨operation, -, names, types, keywords, resolved, mapped, -, written⟩ :=
    exists_assembled_of_mem_codes covered inCodes
  rw [written] at isType
  obtain ⟨shown, inTypes, found⟩ := exists_mem_types_of_mem_declaredTypes resolved mapped isType
  obtain ⟨className, isClass, member⟩ := exists_mem_models_of_mentions mentions found
  have some_model : shown.models.isEmpty = false :=
    List.isEmpty_eq_false_iff.2 (List.ne_nil_of_mem member)
  have inTypeImports :
      (modelsModule, shown.models) ∈ (typeImports modelsModule shown).requests := by
    simp only [typeImports, some_model]
    exact List.mem_append_right _ (List.mem_singleton_self _)
  have inCode : (modelsModule, shown.models) ∈ code.imports.requests := by
    rw [written]
    refine List.mem_append_right _ (List.mem_append_right _ ?_)
    exact List.mem_flatMap_of_mem (List.mem_map_of_mem inTypes) inTypeImports
  refine ⟨className, isClass, ?_⟩
  rw [imports_endpointsModule]
  refine Imports.exists_statement_of_mem_requests ?_ member emitted
  exact List.mem_flatMap_of_mem (List.mem_map_of_mem inCodes) inCode

/-! ## The models module -/

/-- The fields of a model class have every property of annotations that the ways of making one
keep. -/
theorem fieldType_of_modelFields {models : Models} {property : Mapped → Prop}
    (closed : Closed models property) {schemaName : String} {required taken : List String}
    {properties : List (String × TypeRef)} {fields : List ModelField}
    (made : modelFields models schemaName required taken properties = .ok fields) :
    ∀ field ∈ fields, property field.fieldType := by
  induction properties generalizing taken fields with
  | nil =>
      cases made
      intro field member
      cases member
  | cons declared rest ih =>
      obtain ⟨mapped, first, made⟩ := bind_eq_ok_iff.1 made
      obtain ⟨name, -, made⟩ := bind_eq_ok_iff.1 made
      obtain ⟨more, later, made⟩ := bind_eq_ok_iff.1 made
      cases made
      have known := closed.map declared.2 (mapError_eq_ok_iff.1 first)
      intro field member
      rcases List.mem_cons.1 member with rfl | inMore
      · simp only [ModelField.fieldType]
        split
        · exact known
        · exact closed.optional mapped known
      · exact ih later field inMore

/-- The class of a schema is called by the name of the schema. -/
theorem eq_className_of_className? {document : Document} {schema className : String}
    (found : (Models.ofDocument document).className? schema = some className) :
    className = Naming.className schema := by
  obtain ⟨before, after, classes, -⟩ := List.lookup_eq_some_iff.1 found
  have member : (schema, className) ∈ (Models.ofDocument document).classes := by
    rw [classes]
    exact List.mem_append_right _ List.mem_cons_self
  obtain ⟨name, -, same⟩ := List.mem_map.1 member
  cases same
  rfl

theorem name_of_make {document : Document} {schemaName : String} {schema : Schema} {model : Model}
    (made : Model.make (.ofDocument document) schemaName schema = .ok model) :
    model.name = Naming.className schemaName := by
  obtain ⟨fields, -, rfl⟩ := map_eq_ok_iff.1 made
  cases found : (Models.ofDocument document).className? schemaName with
  | none => rfl
  | some className => exact eq_className_of_className? found

variable {document : Document} {models : List Model}

/-- The models have the names of the classes of a description. -/
theorem map_name_modelsOf (made : modelsOf document = .ok models) :
    models.map (·.name) = (Models.ofDocument document).classNames := by
  have named : List.Forall₂ (fun declared model => model.name = Naming.className declared.1)
      document.schemas models :=
    (mapM_eq_ok_iff.1 made).imp fun _ _ => name_of_make
  have classNames : (Models.ofDocument document).classNames =
      document.schemas.map fun declared => Naming.className declared.1 := by
    simp [Models.ofDocument, Models.ofSchemas, Models.classNames, Document.schemaNames,
      Function.comp_def]
  rw [classNames, ← List.forall₂_eq_eq_eq, List.forall₂_map_left_iff, List.forall₂_map_right_iff]
  exact named.flip

/-- The fields of the models have every property of annotations that the ways of making one
keep. -/
theorem fieldType_of_modelsOf {property : Mapped → Prop}
    (closed : Closed (.ofDocument document) property) (made : modelsOf document = .ok models) :
    ∀ model ∈ models, ∀ field ∈ model.fields, property field.fieldType := by
  intro model member
  obtain ⟨declared, -, done⟩ := exists_mem_of_forall₂ (mapM_eq_ok_iff.1 made) member
  obtain ⟨fields, there, rfl⟩ := map_eq_ok_iff.1 done
  exact fieldType_of_modelFields closed there

/-- A model class reads what it is defined with and what its annotations read. -/
theorem mem_globals_definition {model : Model} {name : String}
    (member : name ∈ model.definition.globals) :
    name ∈ Naming.modelBaseNames ∨
      ∃ field ∈ model.fields, name ∈ field.fieldType.expr.annotated := by
  simp only [ClassDefinition.globals, Model.definition, List.flatMap_cons, List.flatMap_nil,
    List.append_nil, List.flatMap_map, List.mem_append, List.mem_flatMap] at member
  rcases member with isBase | isConfig | ⟨field, inFields, inside⟩
  · cases List.mem_singleton.1 isBase
    exact .inl (by decide)
  · have isConfigDict : name = "ConfigDict" := by
      simpa [Member.globals, Statement.reads] using isConfig
    subst isConfigDict
    exact .inl (by decide)
  · rcases List.mem_append.1 inside with inType | inValue
    · exact .inr ⟨field, inFields, inType⟩
    · have isField : name = "Field" := by
        cases required : field.required <;> simpa [required] using inValue
      subst isField
      exact .inl (by decide)

/-- A model class reads visible names only, if its imports are asked for and its annotations are
readable. -/
theorem visible_model {imports : Imports} {defined : List String} {model : Model}
    (asked : imports.Includes model.imports)
    (readable : ∀ field ∈ model.fields, Readable imports defined field.fieldType) :
    ∀ name ∈ model.definition.globals, Visible imports defined name := by
  intro name member
  rcases mem_globals_definition member with isBase | ⟨field, inFields, inside⟩
  · exact .imported (asked name (.left (.from_ isBase (by decide))))
  · exact readable field inFields name inside

variable (models)

theorem definedNames_modelsModule :
    (modelsModule models).definedNames = models.map (·.name) := by
  have rebuildsNothing : (models.map (·.rebuild)).filterMap Item.definedName? = [] := by
    simp [Model.rebuild, Item.definedName?]
  simp only [Module.definedNames, modelsModule]
  rw [List.filterMap_append, List.filterMap_append, List.filterMap_append,
    List.filterMap_cons_none rfl, filterMap_definedName?_importFrom, rebuildsNothing,
    List.filterMap_map]
  simp [Function.comp_def, Item.definedName?, exports, Model.definition]

theorem statements_subset_imports_modelsModule :
    (Imports.all (models.map (·.imports))).statements ⊆ (modelsModule models).imports := by
  intro statement member
  refine List.mem_filterMap.2 ⟨.statement (.importFrom statement), ?_, rfl⟩
  simp only [modelsModule, List.mem_append, List.mem_cons, List.mem_map]
  exact .inl (.inl (.inl (.inr ⟨statement, member, rfl⟩)))

/-- The models module reads what its classes read, and the classes themselves to rebuild them. -/
theorem mem_globals_modelsModule {name : String} (member : name ∈ (modelsModule models).globals) :
    (∃ model ∈ models, name ∈ model.definition.globals) ∨ name ∈ models.map (·.name) := by
  simp only [Module.globals, modelsModule, List.flatMap_append, List.flatMap_cons,
    List.flatMap_map, List.flatMap_nil, List.append_nil, List.mem_append, List.mem_flatMap]
    at member
  rcases member with (((inFuture | ⟨_, -, inImport⟩) | inExports) | inClasses) | inRebuilds
  · cases inFuture
  · cases inImport
  · simp [exports, Item.globals, Statement.reads] at inExports
  · exact .inl inClasses
  · obtain ⟨model, inModels, inside⟩ := inRebuilds
    cases List.mem_singleton.1 inside
    exact .inr (List.mem_map_of_mem inModels)

variable {models}

/-- Every name that the models module reads is always there, imported by it or defined in it. -/
theorem scoped_modelsModule (made : modelsOf document = .ok models) :
    (modelsModule models).Scoped := by
  have closedAccounted := fieldType_of_modelsOf (closed_accounted _) made
  have closedKnown := fieldType_of_modelsOf (closed_known _) made
  apply Module.scoped_of_visible (statements_subset_imports_modelsModule models)
  rw [definedNames_modelsModule]
  intro name member
  rcases mem_globals_modelsModule models member with ⟨model, inModels, inside⟩ | isModel
  · have asked : (Imports.all (models.map (·.imports))).Includes model.imports :=
      fun _ provided => .all (List.mem_map_of_mem inModels) provided
    refine visible_model asked (fun field inFields => ?_) name inside
    apply readable_of_accounted (closedAccounted model inModels field inFields)
    case asked =>
      exact fun name provided =>
        asked name (.right (.all (List.mem_map_of_mem inFields) provided))
    case models =>
      intro name isClass
      have known := (closedKnown model inModels field inFields).models isClass
      rw [← map_name_modelsOf made] at known
      exact .defined known
  · exact .defined isModel

/-! ## Both modules -/

theorem relative_ne_builtins (name : String) : "." ++ name ≠ "builtins" := by
  intro same
  have heads : ("." ++ name).toList.head? = "builtins".toList.head? := by rw [same]
  rw [String.toList_append] at heads
  cases heads

/-- Every name that the endpoints module reads is always there, imported by it or defined in it, and
so is every name that the models module reads.  The class of every schema that the types of an
operation mention, at any depth, is imported from the models module. -/
theorem modules_scoped (variant : Variant) (document : Document) (modelsName : String) :
    (∀ coverage, cover (.ofDocument variant document) ("." ++ modelsName) document.operations =
        .ok coverage →
      (endpointsModule coverage.codes).Scoped ∧
      ∀ code ∈ coverage.codes, ∀ type ∈ declaredTypes code.plan.operation,
        ∀ schema, Mentions type schema →
          ∃ statement ∈ (endpointsModule coverage.codes).imports,
            statement.module = "." ++ modelsName ∧ Naming.className schema ∈ statement.names) ∧
    ∀ models, modelsOf document = .ok models → (modelsModule models).Scoped := by
  have emitted := relative_ne_builtins modelsName
  constructor
  · intro coverage covered
    refine ⟨scoped_endpointsModule emitted covered, ?_⟩
    intro code inCodes type isType schema mentions
    obtain ⟨className, isClass, found⟩ :=
      exists_import_of_mentions emitted covered inCodes isType mentions
    rwa [← eq_className_of_className? isClass]
  · intro models made
    exact scoped_modelsModule made

/-- An operation that gives a list of pets imports their class. -/
theorem namesakes_scoped :
    ∃ coverage models,
      cover (.ofDocument .options namesakes) ("." ++ "models") namesakes.operations =
        .ok coverage ∧
      modelsOf namesakes = .ok models ∧ models.length = 1 ∧
      (endpointsModule coverage.codes).Scoped ∧ (modelsModule models).Scoped ∧
      ∃ statement ∈ (endpointsModule coverage.codes).imports,
        statement.module = ".models" ∧ "Pet" ∈ statement.names := by
  have first : (cover (.ofDocument .options namesakes) ("." ++ "models")
      namesakes.operations).toOption.bind (fun coverage => coverage.codes.head?.map fun code =>
        code.plan.operation.name) = some "findPets" := by
    decide +kernel
  have lengths : (modelsOf namesakes).toOption.map (·.length) = some 1 := by
    decide +kernel
  obtain ⟨coverage, code, covered, inCodes, -⟩ := exists_code_of_head? first
  obtain ⟨models, made, length⟩ := toOption_map_eq_some_iff.1 lengths
  obtain ⟨endpoints, modelClasses⟩ := modules_scoped .options namesakes "models"
  obtain ⟨reads, imported⟩ := endpoints coverage covered
  obtain ⟨operation, inOperations, planned, -⟩ := exists_planned_of_mem_codes covered inCodes
  have isFindPets : code.plan.operation = namesakes.operations.head (by decide) := by
    rw [operation_of_plan planned]
    exact List.mem_singleton.1 inOperations
  have mentions : Mentions { type := some "array", items := some { ref := some "pet" } } "pet" :=
    .item rfl rfl rfl rfl (.reference rfl (by decide))
  have isType : { type := some "array", items := some { ref := some "pet" } } ∈
      declaredTypes code.plan.operation := by
    rw [isFindPets]
    exact List.mem_append_left _ (List.mem_append_right _ (List.mem_singleton_self _))
  have statement := imported code inCodes _ isType "pet" mentions
  rw [show Naming.className "pet" = "Pet" by decide +kernel,
    show "." ++ "models" = ".models" by decide] at statement
  exact ⟨coverage, models, covered, made, length, reads, modelClasses models made, statement⟩

end Bindery.Client

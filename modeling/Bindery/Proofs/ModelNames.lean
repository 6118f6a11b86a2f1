import Bindery.Proofs.Canonical
import Bindery.Proofs.ModelClasses
import Bindery.Proofs.Spelling

/-!
# The names at the top of the models module

The models module binds names by its import statements and by its classes, and a name that is bound
twice keeps its last meaning only.  Names that are imported never meet each other, since each of
them comes from one module.  Classes are called after schemas by a rule that takes different names
to one, and nothing keeps them apart or clear of what is imported.  What would have to is said here
about the description alone.
-/

namespace Bindery.Code

namespace Imports

variable {imports : Imports} {module name : String}

/-- A name is asked for from a module that needs an import statement. -/
def Takes (imports : Imports) (module name : String) : Prop :=
  ∃ names, (module, names) ∈ imports.requests ∧ module ≠ "builtins" ∧ name ∈ names

/-- The modules that need an import statement, in the order of the statements. -/
def orderedModules (imports : Imports) : List String :=
  let group (kind : Origin) := imports.emittedModules.filter (origin · = kind)
  group .standard ++ group .thirdParty ++ group .relative

theorem statements_eq (imports : Imports) :
    imports.statements = imports.orderedModules.map imports.statement := rfl

/-- Every module has one import statement. -/
theorem nodup_orderedModules (imports : Imports) : imports.orderedModules.Nodup := by
  have modules : imports.emittedModules.Nodup := (nodup_ascending _).filter _
  have apart {first second : Origin} (different : first ≠ second) :
      (imports.emittedModules.filter (origin · = first)).Disjoint
        (imports.emittedModules.filter (origin · = second)) := by
    intro module inFirst inSecond
    simp only [List.mem_filter, decide_eq_true_eq] at inFirst inSecond
    exact different (inFirst.2.symm.trans inSecond.2)
  simp only [orderedModules, List.nodup_append', List.disjoint_append_left]
  exact ⟨⟨modules.filter _, modules.filter _, apart (by decide)⟩, modules.filter _,
    apart (by decide), apart (by decide)⟩

theorem mem_orderedModules :
    module ∈ imports.orderedModules ↔ module ∈ imports.modules ∧ module ≠ "builtins" := by
  simp only [orderedModules, emittedModules, List.mem_append, List.mem_filter, decide_eq_true_eq]
  cases origin module <;> simp

theorem takes_iff :
    imports.Takes module name ↔ module ∈ imports.orderedModules ∧ name ∈ imports.names module := by
  simp only [mem_orderedModules, mem_modules, mem_names]
  constructor
  · rintro ⟨names, asked, emitted, member⟩
    exact ⟨⟨⟨names, asked⟩, emitted⟩, names, asked, member⟩
  · rintro ⟨⟨-, emitted⟩, names, asked, member⟩
    exact ⟨names, asked, emitted, member⟩

/-- A name is taken from a module that it is asked for from, unless that is always there. -/
theorem takes_iff_mem_names :
    imports.Takes module name ↔ module ≠ "builtins" ∧ name ∈ imports.names module := by
  simp only [Takes, mem_names]
  tauto

theorem provides_iff_exists_takes : imports.Provides name ↔ ∃ module, imports.Takes module name :=
  Iff.rfl

@[simp] theorem takes_empty : ¬ Takes {} module name := by
  simp [takes_iff_mem_names]

@[simp] theorem takes_from_ {asked : String} {names : List String} :
    (from_ asked names).Takes module name ↔
      module = asked ∧ module ≠ "builtins" ∧ name ∈ names := by
  rw [takes_iff_mem_names, mem_names_from_, and_left_comm]

@[simp] theorem takes_append {first second : Imports} :
    (first ++ second).Takes module name ↔ first.Takes module name ∨ second.Takes module name := by
  simp only [takes_iff_mem_names, mem_names_append, and_or_left]

@[simp] theorem takes_all {pieces : List Imports} :
    (all pieces).Takes module name ↔ ∃ piece ∈ pieces, piece.Takes module name := by
  simp only [takes_iff_mem_names, mem_names_all]
  tauto

/-- Import statements bind no name twice exactly if none is asked for from two modules. -/
theorem nodup_names_statements_iff :
    (imports.statements.flatMap (·.names)).Nodup ↔
      ∀ name first second, imports.Takes first name → imports.Takes second name →
        first = second := by
  rw [statements_eq, List.flatMap_map, List.nodup_flatMap]
  constructor
  · rintro ⟨-, apart⟩ name first second inFirst inSecond
    obtain ⟨isFirst, inFirst⟩ := takes_iff.1 inFirst
    obtain ⟨isSecond, inSecond⟩ := takes_iff.1 inSecond
    by_contra different
    have symmetric : Std.Symm (Function.onFun List.Disjoint fun module =>
        (imports.statement module).names) := ⟨fun _ _ disjoint => disjoint.symm⟩
    exact apart.forall isFirst isSecond different inFirst inSecond
  · intro one
    refine ⟨fun module _ => nodup_ascending _, ?_⟩
    refine (nodup_orderedModules imports).pairwise_of_forall_ne ?_
    intro first isFirst second isSecond different name inFirst inSecond
    exact different (one name first second (takes_iff.2 ⟨isFirst, inFirst⟩)
      (takes_iff.2 ⟨isSecond, inSecond⟩))

end Imports

end Bindery.Code

namespace Bindery.Typing

open Bindery.Code Bindery.Naming

/-- The module that a name for annotations is imported from. -/
def annotationHome (name : String) : String :=
  ((Primitive.all.find? (·.name = name)).bind (·.module?)).getD "typing"

/-- An annotation that takes every name from the module that it is at home in. -/
def Mapped.Homed (type : Mapped) : Prop :=
  ∀ module name, type.imports.Takes module name → module = annotationHome name

theorem closed_homed (models : Models) : Closed models Mapped.Homed where
  any := by
    intro module name taken
    obtain ⟨rfl, -, member⟩ := Imports.takes_from_.1 taken
    cases List.mem_singleton.1 member
    decide
  literal _ := by
    intro module name taken
    obtain ⟨rfl, -, member⟩ := Imports.takes_from_.1 taken
    cases List.mem_singleton.1 member
    decide
  primitive primitive := by
    intro module name taken
    cases primitive with
    | text | bytes | integer | number | boolean => exact (Imports.takes_empty taken).elim
    | timestamp | date | uuid =>
        obtain ⟨rfl, -, member⟩ := Imports.takes_from_.1 taken
        cases List.mem_singleton.1 member
        decide
  model _ _ := fun _ _ taken => (Imports.takes_empty taken).elim
  listOf _ homed := homed
  dictOf _ homed := homed
  optional type homed := by
    intro module name taken
    rw [Mapped.optional_imports] at taken
    exact homed module name taken

end Bindery.Typing

namespace Bindery.Client

open Bindery.Api Bindery.Code Bindery.Naming Bindery.Plan Bindery.Steps Bindery.Typing

/-! ## What the models module imports -/

/-- A name that the annotation of a property asks for. -/
def AsksFor (document : Document) (name : String) : Prop :=
  ∃ declared ∈ document.schemas, ∃ property ∈ declared.2.properties, ∃ mapped,
    (Models.ofDocument document).map property.2 = .ok mapped ∧ mapped.imports.Provides name

theorem imports_fieldType (field : ModelField) : field.fieldType.imports = field.type.imports := by
  simp only [ModelField.fieldType]
  split
  · rfl
  · exact Mapped.optional_imports field.type

/-- A field that belongs to a property of a schema, whatever it is called. -/
structure ModelField.BelongsTo (models : Models) (required : List String)
    (declared : String × TypeRef) (field : ModelField) : Prop where
  property_eq : field.property = declared.1
  required_eq : field.required = decide (declared.1 ∈ required)
  map_eq : models.map declared.2 = .ok field.type

/-- The fields of a class belong to the properties of its schema, each to the one at its
position. -/
theorem forall₂_belongsTo_modelFields {models : Models} {schemaName : String}
    {required taken : List String} {properties : List (String × TypeRef)} {fields : List ModelField}
    (made : modelFields models schemaName required taken properties = .ok fields) :
    List.Forall₂ (ModelField.BelongsTo models required) properties fields := by
  induction properties generalizing taken fields with
  | nil =>
      cases made
      exact .nil
  | cons declared rest ih =>
      obtain ⟨mapped, first, made⟩ := bind_eq_ok_iff.1 made
      obtain ⟨name, -, made⟩ := bind_eq_ok_iff.1 made
      obtain ⟨more, later, made⟩ := bind_eq_ok_iff.1 made
      cases made
      exact .cons ⟨rfl, rfl, mapError_eq_ok_iff.1 first⟩ (ih later)

/-- Every field has the annotation of its property. -/
theorem forall₂_modelFields {models : Models} {schemaName : String} {required taken : List String}
    {properties : List (String × TypeRef)} {fields : List ModelField}
    (made : modelFields models schemaName required taken properties = .ok fields) :
    List.Forall₂ (fun declared field => models.map declared.2 = .ok field.type) properties
      fields :=
  (forall₂_belongsTo_modelFields made).imp fun _ _ belongs => belongs.map_eq

variable {document : Document} {models : List Model}

theorem exists_field_provides_iff (made : modelsOf document = .ok models) {name : String} :
    (∃ model ∈ models, ∃ field ∈ model.fields, field.fieldType.imports.Provides name) ↔
      AsksFor document name := by
  refine (exists_mem_iff_of_forall₂ (mapM_eq_ok_iff.1 made) fun declared model done => ?_).symm
  obtain ⟨fields, found, rfl⟩ := map_eq_ok_iff.1 done
  refine exists_mem_iff_of_forall₂ (forall₂_modelFields found) fun property field mapped => ?_
  simp [mapped, imports_fieldType]

theorem imports_modelsModule (models : List Model) :
    (modelsModule models).imports =
      ⟨0, "__future__", ["annotations"]⟩ :: (Imports.all (models.map (·.imports))).statements := by
  have nothing : ((models.map fun model => Item.class_ model.definition) ++
      models.map (·.rebuild)).filterMap Item.import? = [] := by
    refine List.filterMap_eq_nil_iff.2 fun item member => ?_
    rcases List.mem_append.1 member with isClass | isRebuild
    · obtain ⟨model, -, rfl⟩ := List.mem_map.1 isClass
      rfl
    · obtain ⟨model, -, rfl⟩ := List.mem_map.1 isRebuild
      rfl
  simp only [Module.imports, modelsModule]
  rw [List.append_assoc, List.filterMap_append, nothing]
  simp [Item.import?, exports, List.filterMap_map, Function.comp_def]

/-- A class takes what it is defined with from one module and what its annotations ask for from
others. -/
theorem takes_models_iff {module name : String} :
    (Imports.all (models.map (·.imports))).Takes module name ↔
      ∃ model ∈ models, (module = "pydantic" ∧ name ∈ modelBaseNames) ∨
        ∃ field ∈ model.fields, field.fieldType.imports.Takes module name := by
  simp only [Imports.takes_all, List.mem_map, exists_exists_and_eq_and, Model.imports,
    Imports.takes_append, Imports.takes_from_]
  refine exists_congr fun model => and_congr_right fun _ => or_congr_left ?_
  constructor
  · rintro ⟨rfl, -, member⟩
    exact ⟨rfl, member⟩
  · rintro ⟨rfl, member⟩
    exact ⟨rfl, by decide, member⟩

/-- Beside the name for postponed annotations, the models module binds by its imports what classes
are defined with and what the annotations of properties ask for. -/
theorem mem_importedNames_modelsModule (made : modelsOf document = .ok models) {name : String} :
    name ∈ (modelsModule models).importedNames ↔
      name = "annotations" ∨ (document.schemas ≠ [] ∧ name ∈ modelBaseNames) ∨
        AsksFor document name := by
  have some_model : document.schemas ≠ [] ↔ ∃ model, model ∈ models := by
    rw [← List.length_pos_iff, (mapM_eq_ok_iff.1 made).length_eq, List.length_pos_iff_exists_mem]
  rw [Module.importedNames, imports_modelsModule, List.flatMap_cons, List.mem_append,
    Imports.mem_names_statements, ← exists_field_provides_iff made, some_model,
    List.mem_singleton]
  refine or_congr_right ?_
  simp only [Imports.provides_iff_exists_takes, takes_models_iff]
  constructor
  · rintro ⟨module, model, inModels, ⟨-, isBase⟩ | ⟨field, inFields, taken⟩⟩
    · exact .inl ⟨⟨model, inModels⟩, isBase⟩
    · exact .inr ⟨model, inModels, field, inFields, module, taken⟩
  · rintro (⟨⟨model, inModels⟩, isBase⟩ | ⟨model, inModels, field, inFields, module, taken⟩)
    · exact ⟨"pydantic", model, inModels, .inl ⟨rfl, isBase⟩⟩
    · exact ⟨module, model, inModels, .inr ⟨field, inFields, taken⟩⟩

/-- What annotations ask for is neither needed to define classes nor to postpone annotations. -/
theorem not_mem_annotationImports {name : String}
    (member : name ∈ "annotations" :: modelBaseNames) :
    name ∉ annotationImports := by
  revert name
  decide

/-- The module that a name of the models module is imported from. -/
def modelsHome (name : String) : String :=
  if name ∈ modelBaseNames then "pydantic" else annotationHome name

/-- Every name is taken from the module that it is at home in, and none is the name for postponed
annotations. -/
theorem home_of_takes (made : modelsOf document = .ok models) {module name : String}
    (taken : (Imports.all (models.map (·.imports))).Takes module name) :
    module = modelsHome name ∧ name ≠ "annotations" := by
  obtain ⟨model, inModels, ⟨rfl, isBase⟩ | ⟨field, inFields, taken⟩⟩ := takes_models_iff.1 taken
  · constructor
    · rw [modelsHome, if_pos isBase]
    · rintro rfl
      exact absurd isBase (by decide)
  · have homed := fieldType_of_modelsOf (closed_homed _) made model inModels field inFields
    have known := fieldType_of_modelsOf (closed_known _) made model inModels field inFields
    have asked := known.imports name (Imports.Provides.mem_requested ⟨module, taken⟩)
    constructor
    · rw [modelsHome, if_neg fun isBase =>
        not_mem_annotationImports (List.mem_cons_of_mem _ isBase) asked]
      exact homed module name taken
    · rintro rfl
      exact not_mem_annotationImports List.mem_cons_self asked

/-- The import statements of the models module bind no name twice. -/
theorem nodup_importedNames_modelsModule (made : modelsOf document = .ok models) :
    (modelsModule models).importedNames.Nodup := by
  rw [Module.importedNames, imports_modelsModule, List.flatMap_cons, List.singleton_append,
    List.nodup_cons, Imports.nodup_names_statements_iff]
  constructor
  · intro again
    obtain ⟨module, taken⟩ := Imports.mem_names_statements.1 again
    exact (home_of_takes made taken).2 rfl
  · intro name first second ofFirst ofSecond
    rw [(home_of_takes made ofFirst).1, (home_of_takes made ofSecond).1]

/-! ## All names at the top -/

/-- The names that the models module binds at its top are distinct exactly if the schemas have
classes of different names, and none of these is a name that classes are defined with or that an
annotation asks for. -/
theorem modelsModule_names_distinct_iff (made : modelsOf document = .ok models) :
    ((modelsModule models).importedNames ++ (modelsModule models).definedNames).Nodup ↔
      (document.schemaNames.map className).Nodup ∧
        ∀ schema ∈ document.schemaNames, className schema ∉ modelBaseNames ∧
          ¬ AsksFor document (className schema) := by
  have defined : (modelsModule models).definedNames = document.schemaNames.map className := by
    rw [definedNames_modelsModule, map_name_modelsOf made]
    simp [Models.ofDocument, Models.ofSchemas, Models.classNames, Function.comp_def]
  rw [defined, List.nodup_append', and_iff_right (nodup_importedNames_modelsModule made)]
  refine and_congr_right fun _ => ?_
  rw [List.disjoint_comm]
  simp only [List.Disjoint, List.forall_mem_map, mem_importedNames_modelsModule made]
  refine forall₂_congr fun schema member => ?_
  have some_schema : document.schemas ≠ [] := by
    rintro none_there
    simp [Document.schemaNames, none_there] at member
  have unlike : className schema ≠ "annotations" := className_ne_of_isLower (by decide) schema
  simp [unlike, some_schema]

/-- A description of two schemas whose properties have a date, any value and each other. -/
def kennel : Document where
  schemas := [
    ("pet", { properties := [
      ("born", { type := some "string", format := some "date" }),
      ("owner", { ref := some "#/schemas/pet-owner" })] }),
    ("pet-owner", { properties := [
      ("pets", { type := some "array", items := some { ref := some "pet" } }),
      ("notes", {})] })]

/-- The classes of the kennel are apart from each other and from what is imported. -/
theorem kennel_names_distinct :
    ∃ models, modelsOf kennel = .ok models ∧
      (modelsModule models).importedNames =
        ["annotations", "date", "Any", "BaseModel", "ConfigDict", "Field"] ∧
      (modelsModule models).definedNames = ["Pet", "PetOwner"] ∧
      (kennel.schemaNames.map className).Nodup ∧
      ∀ schema ∈ kennel.schemaNames, className schema ∉ modelBaseNames ∧
        ¬ AsksFor kennel (className schema) := by
  have names : (modelsOf kennel).toOption.map (fun models =>
      ((modelsModule models).importedNames, (modelsModule models).definedNames)) =
      some (["annotations", "date", "Any", "BaseModel", "ConfigDict", "Field"],
        ["Pet", "PetOwner"]) := by
    decide +kernel
  obtain ⟨models, made, names⟩ := toOption_map_eq_some_iff.1 names
  obtain ⟨imported, defined⟩ := Prod.mk.inj names
  obtain ⟨distinct, clear⟩ :=
    (modelsModule_names_distinct_iff made).1 (by rw [imported, defined]; decide)
  exact ⟨models, made, imported, defined, distinct, clear⟩

/-- A description of schemas that are called after one another or after what is imported. -/
def strays : Document where
  schemas := [("pet", {}), ("Pet", {}), ("any", { properties := [("note", {})] }),
    ("base model", {})]

/-- One class takes the name of another, and two the name of something that is imported. -/
theorem strays_share_names :
    ∃ models, modelsOf strays = .ok models ∧
      (modelsModule models).definedNames = ["Pet", "Pet", "Any", "BaseModel"] ∧
      "Any" ∈ (modelsModule models).importedNames ∧
      "BaseModel" ∈ (modelsModule models).importedNames ∧
      ¬ ((modelsModule models).importedNames ++ (modelsModule models).definedNames).Nodup := by
  have names : (modelsOf strays).toOption.map (fun models =>
      ((modelsModule models).importedNames, (modelsModule models).definedNames)) =
      some (["annotations", "Any", "BaseModel", "ConfigDict", "Field"],
        ["Pet", "Pet", "Any", "BaseModel"]) := by
    decide +kernel
  obtain ⟨models, made, names⟩ := toOption_map_eq_some_iff.1 names
  obtain ⟨imported, defined⟩ := Prod.mk.inj names
  refine ⟨models, made, defined, ?_⟩
  rw [imported, defined]
  decide

end Bindery.Client

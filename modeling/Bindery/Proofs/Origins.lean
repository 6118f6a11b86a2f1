import Bindery.Proofs.ModelNames
import Bindery.Proofs.Runs

/-!
# Where imported names come from

An import statement that names what an earlier one has named takes its place.  What the modules of a
client import comes from the library, from the runtime module and from each other, and each of these
has names of its own but for one: the classes of the models module are called after schemas, and
nothing keeps them clear of the names that the modules beside it need or export.
-/

namespace Bindery.Code

/-- A module imports a name from a source. -/
def Module.ImportsFrom (module : Module) (source name : String) : Prop :=
  ∃ statement ∈ module.imports, statement.module = source ∧ name ∈ statement.names

instance (module : Module) (source name : String) : Decidable (module.ImportsFrom source name) :=
  inferInstanceAs (Decidable (∃ statement ∈ module.imports, _))

/-- No name is imported from two sources. -/
def Module.ImportsOnce (module : Module) : Prop :=
  ∀ name first second, module.ImportsFrom first name → module.ImportsFrom second name →
    first = second

/-- The statements of a module import what is asked for. -/
theorem Imports.importsFrom_iff {imports : Imports} {module : Module}
    (same : module.imports = imports.statements) {source name : String} :
    module.ImportsFrom source name ↔ imports.Takes source name := by
  simp only [Module.ImportsFrom]
  rw [same, Imports.statements_eq, Imports.takes_iff]
  constructor
  · rintro ⟨_, member, from_, named⟩
    obtain ⟨found, inModules, rfl⟩ := List.mem_map.1 member
    rw [Imports.module_statement] at from_
    subst from_
    exact ⟨inModules, named⟩
  · rintro ⟨inModules, named⟩
    exact ⟨_, List.mem_map_of_mem inModules, Imports.module_statement imports source, named⟩

/-- A request to a module other than that of the built-in names is for the names asked. -/
theorem Imports.takes_from_of_ne {asked source name : String} {names : List String}
    (emitted : asked ≠ "builtins") :
    (Imports.from_ asked names).Takes source name ↔ source = asked ∧ name ∈ names := by
  rw [Imports.takes_from_]
  exact and_congr_right fun same => and_iff_right (same ▸ emitted)

/-- Where one source is open to any names and each other name has a home that is not this source, no
name is imported from two sources exactly if none of those names is needed from elsewhere. -/
theorem Module.importsOnce_iff {module : Module} {shared : String} {home : String → String}
    {Shared Needed : String → Prop}
    (sources : ∀ source name, module.ImportsFrom source name ↔
      (source = shared ∧ Shared name) ∨ (source = home name ∧ Needed name))
    (apart : ∀ name, Needed name → home name ≠ shared) :
    module.ImportsOnce ↔ ∀ name, Shared name → ¬ Needed name := by
  constructor
  · intro once name isShared isNeeded
    exact apart name isNeeded (once name _ _ ((sources _ _).2 (.inr ⟨rfl, isNeeded⟩))
      ((sources _ _).2 (.inl ⟨rfl, isShared⟩)))
  · intro clear name first second fromFirst fromSecond
    rcases (sources _ _).1 fromFirst with ⟨rfl, isShared⟩ | ⟨rfl, isNeeded⟩
    · rcases (sources _ _).1 fromSecond with ⟨rfl, -⟩ | ⟨rfl, isNeeded⟩
      · rfl
      · exact absurd isNeeded (clear name isShared)
    · rcases (sources _ _).1 fromSecond with ⟨rfl, isShared⟩ | ⟨rfl, -⟩
      · exact absurd isNeeded (clear name isShared)
      · rfl

end Bindery.Code

namespace Bindery.Typing

open Bindery.Code

/-- Names for annotations are at home in the library. -/
theorem annotationHome_mem (name : String) :
    annotationHome name ∈ ["datetime", "typing", "uuid"] := by
  simp only [annotationHome]
  cases Primitive.all.find? (·.name = name) with
  | none => decide
  | some primitive => cases primitive <;> decide

end Bindery.Typing

namespace Bindery.Client

open Bindery.Api Bindery.Code Bindery.Naming Bindery.Plan Bindery.Steps Bindery.Typing

/-! ## The endpoints module -/

/-- A name that the code of a plan needs from the library or from the runtime module. -/
inductive Needs (plan : OperationPlan) : String → Prop where
  | sending {name : String} :
      name ∈ ["Configuration", "request_sync", "request_async"] → Needs plan name
  | joining : plan.bindings.any joinsItems = true → Needs plan "format_collection"
  | checking : plan.bindings.any (·.checksPresence) = true → Needs plan "require"
  | gathering {name : String} :
      plan.usesOptions = true → name ∈ ["BaseModel", "ConfigDict", "OptionsBuilder"] →
      Needs plan name
  | describing {options : Options} {field : Field} :
      plan.options = some options → field ∈ options.fields →
      (fieldDescription? field).isSome = true → Needs plan "Field"
  | annotating {type : Mapped} {name : String} :
      type ∈ plan.types → type.imports.Provides name → Needs plan name

theorem sendingNames_subset :
    ["Configuration", "request_sync", "request_async"] ⊆ runtimeNames := by
  decide

/-- The module that a name of the endpoints module is at home in, unless it is a class of the models
module. -/
def endpointsHome (name : String) : String :=
  if name ∈ runtimeNames then "._runtime" else modelsHome name

theorem endpointsHome_mem (name : String) :
    endpointsHome name ∈ ["._runtime", "pydantic", "datetime", "typing", "uuid"] := by
  simp only [endpointsHome, modelsHome]
  split
  · decide
  · split
    · decide
    · exact List.mem_cons_of_mem _ (List.mem_cons_of_mem _ (annotationHome_mem name))

theorem endpointsHome_runtime {name : String} (member : name ∈ runtimeNames) :
    endpointsHome name = "._runtime" :=
  if_pos member

theorem endpointsHome_base {name : String} (member : name ∈ modelBaseNames) :
    endpointsHome name = "pydantic" := by
  revert name
  decide

/-- The home of a name for annotations is the same in every module. -/
theorem endpointsHome_eq_annotationHome {name : String} (member : name ∈ annotationImports) :
    endpointsHome name = annotationHome name := by
  revert name
  decide

section

variable {modelsModule source name : String} {operation : Operation} {names : Names}
  {types : OperationTypes}

theorem takes_fieldImports {field : Field} :
    (fieldImports field).Takes source name ↔
      field.type.imports.Takes source name ∨
        ((fieldDescription? field).isSome = true ∧ source = "pydantic" ∧ name = "Field") := by
  simp only [fieldImports, Imports.takes_append, Field.optionalType, Mapped.optional_imports]
  refine or_congr_right ?_
  split
  · next described =>
      rw [Imports.takes_from_of_ne (by decide)]
      simp only [described, true_and, List.mem_singleton]
  · next plain => simp [plain]

/-- The class of an options type takes what it is defined with and what its fields ask for. -/
theorem takes_optionsClass {options : Options} {builder : Builder} :
    (optionsClass options builder).imports.Takes source name ↔
      (source = "pydantic" ∧ name ∈ ["BaseModel", "ConfigDict"]) ∨
        ∃ field ∈ options.fields, (fieldImports field).Takes source name := by
  simp only [optionsClass, Imports.takes_append, Imports.takes_all, List.mem_map,
    exists_exists_and_eq_and]
  rw [Imports.takes_from_of_ne (by decide)]

/-- The class of a builder takes its base class and what annotations of fields ask for. -/
theorem takes_builderClass {options : Options}
    (taken : (builderClass (.make options)).imports.Takes source name) :
    (source = "._runtime" ∧ name = "OptionsBuilder") ∨
      ∃ field ∈ options.fields, field.type.imports.Takes source name := by
  simp only [builderClass, Imports.takes_append, Imports.takes_all] at taken
  rcases taken with taken | ⟨_, inPieces, taken⟩
  · rw [Imports.takes_from_of_ne (by decide), List.mem_singleton] at taken
    exact .inl taken
  · obtain ⟨setter, inSetters, rfl⟩ := List.mem_map.1 inPieces
    obtain ⟨field, inFields, rfl⟩ := List.mem_map.1 (List.mem_filter.1 inSetters).1
    exact .inr ⟨field, inFields, taken⟩

theorem builder_takes_base (options : Options) :
    (builderClass (.make options)).imports.Takes "._runtime" "OptionsBuilder" := by
  simp [builderClass]

/-- What the inputs of a flat signature ask for is what the types of the fields do. -/
theorem mem_names_signatureImports_flat {fields : List Field} :
    name ∈ (signatureImports (.flat fields)).names source ↔
      ∃ field ∈ fields, name ∈ field.type.imports.names source := by
  have configuration : (inputImports configurationInput) = {} := rfl
  have required (field : Field) : inputImports field.requiredInput = field.type.imports := rfl
  have optional (field : Field) : inputImports field.optionalInput = field.type.imports :=
    Mapped.optional_imports field.type
  simp only [signatureImports, Signature.flat, Imports.mem_names_all, List.map_append,
    List.map_cons, List.map_map, List.cons_append, List.mem_cons, List.mem_append, List.mem_map,
    List.mem_filter, Function.comp_def, required, optional, configuration]
  constructor
  · rintro ⟨_, rfl | ⟨field, ⟨inFields, -⟩, rfl⟩ | ⟨field, ⟨inFields, -⟩, rfl⟩, asked⟩
    · exact absurd asked List.not_mem_nil
    · exact ⟨field, inFields, asked⟩
    · exact ⟨field, inFields, asked⟩
  · rintro ⟨field, inFields, asked⟩
    refine ⟨_, .inr ?_, asked⟩
    cases passed : field.parameter.required with
    | true => exact .inl ⟨field, ⟨inFields, passed⟩, rfl⟩
    | false => exact .inr ⟨field, ⟨inFields, by simp [passed]⟩, rfl⟩

/-- What the inputs of a flat signature import is what the types of the fields do. -/
theorem takes_signatureImports_flat {fields : List Field} :
    (signatureImports (.flat fields)).Takes source name ↔
      ∃ field ∈ fields, field.type.imports.Takes source name := by
  simp only [Imports.takes_iff_mem_names, mem_names_signatureImports_flat]
  tauto

/-- The arguments of a function ask for what annotations of its plan ask for. -/
theorem exists_type_of_mem_names_signatureImports
    (asked : name ∈
      (signatureImports (OperationPlan.assemble operation names types).signature).names source) :
    ∃ type ∈ (OperationPlan.assemble operation names types).types,
      name ∈ type.imports.names source := by
  cases uses : (OperationPlan.assemble operation names types).usesOptions with
  | false =>
      rw [signature_assemble_of_flat uses, mem_names_signatureImports_flat] at asked
      obtain ⟨field, inFields, asked⟩ := asked
      exact ⟨field.type, mem_types_of_mem_fieldsOf inFields, asked⟩
  | true =>
      obtain ⟨options, found⟩ := Option.isSome_iff_exists.1 uses
      rw [signature_assemble_of_options found] at asked
      exact absurd asked List.not_mem_nil

theorem mem_names_typeImports {type : Mapped} :
    name ∈ (typeImports modelsModule type).names source ↔
      name ∈ type.imports.names source ∨ (source = modelsModule ∧ name ∈ type.models) := by
  rw [typeImports, Imports.mem_names_append]
  refine or_congr_right ?_
  split
  · next none_there => simp [List.isEmpty_iff.1 none_there]
  · exact Imports.mem_names_from_

variable {models : Models} {plan : OperationPlan}

/-- Why the functions of a plan ask for a name from a module: to send the request, to join the items
of an array, to check that a value is there, or for the annotations of the plan. -/
inductive Asks (modelsModule : String) (plan : OperationPlan) : String → String → Prop where
  | sending {name : String} :
      name ∈ ["Configuration", "request_sync", "request_async"] →
      Asks modelsModule plan "._runtime" name
  | joining : plan.bindings.any joinsItems = true →
      Asks modelsModule plan "._runtime" "format_collection"
  | checking : plan.bindings.any (·.checksPresence) = true →
      Asks modelsModule plan "._runtime" "require"
  | annotating {type : Mapped} {source name : String} :
      type ∈ plan.types → name ∈ type.imports.names source → Asks modelsModule plan source name
  | modelling {type : Mapped} {name : String} :
      type ∈ plan.types → name ∈ type.models → Asks modelsModule plan modelsModule name

/-- The functions of a plan ask for nothing but what they have a reason for. -/
theorem mem_names_endpointImports_iff (assembled : plan = .assemble operation names types) :
    name ∈ (endpointImports modelsModule plan).names source ↔
      Asks modelsModule plan source name := by
  subst assembled
  simp only [endpointImports, Imports.mem_names_append, Imports.mem_names_all]
  constructor
  · rintro ((((asked | asked) | asked) | asked) | ⟨_, inPieces, asked⟩)
    · obtain ⟨rfl, member⟩ := Imports.mem_names_from_.1 asked
      exact .sending member
    · split at asked
      · next joins =>
          obtain ⟨rfl, member⟩ := Imports.mem_names_from_.1 asked
          cases List.mem_singleton.1 member
          exact .joining joins
      · exact absurd asked List.not_mem_nil
    · split at asked
      · next checks =>
          obtain ⟨rfl, member⟩ := Imports.mem_names_from_.1 asked
          cases List.mem_singleton.1 member
          exact .checking checks
      · exact absurd asked List.not_mem_nil
    · obtain ⟨type, inTypes, asked⟩ := exists_type_of_mem_names_signatureImports asked
      exact .annotating inTypes asked
    · obtain ⟨type, inTypes, rfl⟩ := List.mem_map.1 inPieces
      rcases mem_names_typeImports.1 asked with asked | ⟨rfl, isModel⟩
      · exact .annotating inTypes asked
      · exact .modelling inTypes isModel
  · intro asks
    cases asks with
    | sending member =>
        exact .inl (.inl (.inl (.inl (Imports.mem_names_from_.2 ⟨rfl, member⟩))))
    | joining joins =>
        rw [if_pos joins]
        exact .inl (.inl (.inl (.inr (Imports.mem_names_from_.2 ⟨rfl, List.mem_singleton_self _⟩))))
    | checking checks =>
        rw [if_pos checks]
        exact .inl (.inl (.inr (Imports.mem_names_from_.2 ⟨rfl, List.mem_singleton_self _⟩)))
    | annotating inTypes asked =>
        exact .inr ⟨_, List.mem_map_of_mem inTypes, mem_names_typeImports.2 (.inl asked)⟩
    | modelling inTypes isModel =>
        exact .inr ⟨_, List.mem_map_of_mem inTypes, mem_names_typeImports.2 (.inr ⟨rfl, isModel⟩)⟩

/-- What the functions of a plan take is what they ask for from other modules than the one that is
always there. -/
theorem takes_endpointImports_iff (assembled : plan = .assemble operation names types) :
    (endpointImports modelsModule plan).Takes source name ↔
      source ≠ "builtins" ∧ Asks modelsModule plan source name := by
  rw [Imports.takes_iff_mem_names, mem_names_endpointImports_iff assembled]

/-- A name that is taken for an annotation of a plan comes from its home. -/
theorem home_of_takes_type (mapped : mapTypes models operation = .ok types)
    (assembled : plan = .assemble operation names types) {type : Mapped}
    (inTypes : type ∈ plan.types)
    (taken : type.imports.Takes source name) :
    source = endpointsHome name ∧ Needs plan name := by
  subst assembled
  have homed := (closed_homed models).types mapped names type inTypes
  have known := (closed_known models).types mapped names type inTypes
  have asked := known.imports name (Imports.Provides.mem_requested ⟨source, taken⟩)
  rw [endpointsHome_eq_annotationHome asked]
  exact ⟨homed source name taken, .annotating inTypes ⟨source, taken⟩⟩

/-- The fields of a plan's options have types of the plan. -/
theorem mem_types_of_mem_fields (assembled : plan = .assemble operation names types)
    {options : Options} (found : plan.options = some options) {field : Field}
    (member : field ∈ options.fields) : field.type ∈ plan.types := by
  subst assembled
  obtain ⟨name, -, rfl⟩ := Option.map_eq_some_iff.1 found
  exact mem_types_of_mem_fieldsOf member

/-- What the classes of an operation take is needed and comes from its home. -/
theorem home_of_takes_classes (mapped : mapTypes models operation = .ok types)
    (assembled : plan = .assemble operation names types) {piece : ClassCode}
    (member : piece ∈ OperationCode.classesOf plan) (taken : piece.imports.Takes source name) :
    source = endpointsHome name ∧ Needs plan name := by
  cases found : plan.options with
  | none => simp [OperationCode.classesOf, found] at member
  | some options =>
      have gathers : plan.usesOptions = true := by simp [OperationPlan.usesOptions, found]
      have ofType {field : Field} (inFields : field ∈ options.fields)
          (taken : field.type.imports.Takes source name) :
          source = endpointsHome name ∧ Needs plan name :=
        home_of_takes_type mapped assembled (mem_types_of_mem_fields assembled found inFields)
          taken
      rw [classesOf_of_options assembled found] at member
      simp only [List.mem_cons, List.not_mem_nil, or_false] at member
      rcases member with rfl | rfl
      · rcases takes_optionsClass.1 taken with ⟨rfl, isBase⟩ | ⟨field, inFields, taken⟩
        · refine ⟨(endpointsHome_base (List.mem_append_left ["Field"] isBase)).symm, ?_⟩
          exact .gathering gathers (List.mem_append_left ["OptionsBuilder"] isBase)
        · rcases takes_fieldImports.1 taken with taken | ⟨described, rfl, rfl⟩
          · exact ofType inFields taken
          · exact ⟨by decide, .describing found inFields described⟩
      · rcases takes_builderClass taken with ⟨rfl, rfl⟩ | ⟨field, inFields, taken⟩
        · exact ⟨by decide, .gathering gathers (by decide)⟩
        · exact ofType inFields taken

/-- Beside classes of the models module, what the code of an operation takes is needed and comes
from its home. -/
theorem home_of_takes_code (mapped : mapTypes models operation = .ok types)
    (assembled : plan = .assemble operation names types)
    {keywords : List (String × Expr)}
    (taken : (OperationCode.assemble modelsModule plan keywords).imports.Takes source name) :
    (source = modelsModule ∧ ∃ type ∈ plan.types, name ∈ type.models) ∨
      (source = endpointsHome name ∧ Needs plan name) := by
  rcases Imports.takes_append.1 taken with taken | taken
  · obtain ⟨_, inPieces, taken⟩ := Imports.takes_all.1 taken
    obtain ⟨piece, inClasses, rfl⟩ := List.mem_map.1 inPieces
    exact .inr (home_of_takes_classes mapped assembled inClasses taken)
  · obtain ⟨elsewhere, asks⟩ := (takes_endpointImports_iff assembled).1 taken
    cases asks with
    | sending member =>
        exact .inr ⟨(endpointsHome_runtime (sendingNames_subset member)).symm, .sending member⟩
    | joining joins => exact .inr ⟨by decide, .joining joins⟩
    | checking checks => exact .inr ⟨by decide, .checking checks⟩
    | annotating inTypes asked =>
        have taken := Imports.takes_iff_mem_names.2 ⟨elsewhere, asked⟩
        exact .inr (home_of_takes_type mapped assembled inTypes taken)
    | modelling inTypes isModel => exact .inl ⟨rfl, _, inTypes, isModel⟩

/-- The code of an operation takes what its functions ask for. -/
theorem takes_code_of_asks (assembled : plan = .assemble operation names types)
    {keywords : List (String × Expr)} (elsewhere : source ≠ "builtins")
    (asks : Asks modelsModule plan source name) :
    (OperationCode.assemble modelsModule plan keywords).imports.Takes source name :=
  Imports.takes_append.2 (.inr ((takes_endpointImports_iff assembled).2 ⟨elsewhere, asks⟩))

/-- The code of an operation takes every name that it needs from its home. -/
theorem takes_code_of_needs (mapped : mapTypes models operation = .ok types)
    (assembled : plan = .assemble operation names types) {keywords : List (String × Expr)}
    (needs : Needs plan name) :
    (OperationCode.assemble modelsModule plan keywords).imports.Takes (endpointsHome name)
      name := by
  have classes {source : String} {piece : ClassCode}
      (member : piece ∈ OperationCode.classesOf plan) (taken : piece.imports.Takes source name) :
      (OperationCode.assemble modelsModule plan keywords).imports.Takes source name :=
    Imports.takes_append.2 (.inl (Imports.takes_all.2 ⟨_, List.mem_map_of_mem member, taken⟩))
  cases needs with
  | sending member =>
      rw [endpointsHome_runtime (sendingNames_subset member)]
      exact takes_code_of_asks assembled (by decide) (.sending member)
  | joining joins =>
      rw [endpointsHome_runtime (by decide)]
      exact takes_code_of_asks assembled (by decide) (.joining joins)
  | checking checks =>
      rw [endpointsHome_runtime (by decide)]
      exact takes_code_of_asks assembled (by decide) (.checking checks)
  | gathering gathers member =>
      obtain ⟨options, found⟩ := Option.isSome_iff_exists.1 gathers
      rw [classesOf_of_options assembled found] at classes
      rcases List.mem_append.1 (show name ∈ ["BaseModel", "ConfigDict"] ++ ["OptionsBuilder"] from
        member) with isBase | isBuilder
      · rw [endpointsHome_base (List.mem_append_left ["Field"] isBase)]
        exact classes List.mem_cons_self (takes_optionsClass.2 (.inl ⟨rfl, isBase⟩))
      · cases List.mem_singleton.1 isBuilder
        exact classes (List.mem_cons_of_mem _ List.mem_cons_self) (builder_takes_base options)
  | @describing options field found inFields described =>
      rw [classesOf_of_options assembled found] at classes
      refine classes List.mem_cons_self (takes_optionsClass.2 (.inr ⟨field, inFields, ?_⟩))
      exact takes_fieldImports.2 (.inr ⟨described, by decide, rfl⟩)
  | @annotating type _ inTypes asked =>
      obtain ⟨source, taken⟩ := asked
      rw [← (home_of_takes_type mapped assembled inTypes taken).1]
      obtain ⟨elsewhere, asked⟩ := Imports.takes_iff_mem_names.1 taken
      exact takes_code_of_asks assembled elsewhere (.annotating inTypes asked)

end

section

variable {setting : Setting} {modelsModule : String} {operations : List Operation}
  {coverage : Coverage}

/-- A client's operations refer to a class of the models module. -/
def RefersTo (codes : List OperationCode) (name : String) : Prop :=
  ∃ code ∈ codes, ∃ type ∈ code.plan.types, name ∈ type.models

/-- What the endpoints module imports from where. -/
theorem importsFrom_endpointsModule_iff (emitted : modelsModule ≠ "builtins")
    (covered : cover setting modelsModule operations = .ok coverage) {source name : String} :
    (endpointsModule coverage.codes).ImportsFrom source name ↔
      (source = modelsModule ∧ RefersTo coverage.codes name) ∨
        (source = endpointsHome name ∧ ∃ code ∈ coverage.codes, Needs code.plan name) := by
  rw [Imports.importsFrom_iff (imports_endpointsModule coverage.codes), Imports.takes_all]
  simp only [List.mem_map, exists_exists_and_eq_and]
  constructor
  · rintro ⟨code, inCodes, taken⟩
    obtain ⟨operation, -, names, types, keywords, -, mapped, -, rfl⟩ :=
      exists_assembled_of_mem_codes covered inCodes
    rcases home_of_takes_code mapped rfl taken with ⟨rfl, refers⟩ | ⟨rfl, needs⟩
    · exact .inl ⟨rfl, _, inCodes, refers⟩
    · exact .inr ⟨rfl, _, inCodes, needs⟩
  · rintro (⟨rfl, code, inCodes, type, inTypes, isModel⟩ | ⟨rfl, code, inCodes, needs⟩)
    · obtain ⟨operation, -, names, types, keywords, -, mapped, -, rfl⟩ :=
        exists_assembled_of_mem_codes covered inCodes
      exact ⟨_, inCodes, takes_code_of_asks rfl emitted (.modelling inTypes isModel)⟩
    · obtain ⟨operation, -, names, types, keywords, -, mapped, -, rfl⟩ :=
        exists_assembled_of_mem_codes covered inCodes
      exact ⟨_, inCodes, takes_code_of_needs mapped rfl needs⟩

/-- What is needed is a name of the runtime module, one for annotations or one for classes. -/
theorem mem_of_needs (covered : cover setting modelsModule operations = .ok coverage)
    {code : OperationCode} (inCodes : code ∈ coverage.codes) {name : String}
    (needs : Needs code.plan name) :
    name ∈ runtimeNames ++ annotationImports ++ modelBaseNames := by
  cases needs with
  | sending member | gathering _ member =>
      revert name
      decide
  | joining | checking | describing => decide
  | annotating inTypes asked =>
      obtain ⟨operation, -, names, types, keywords, -, mapped, -, rfl⟩ :=
        exists_assembled_of_mem_codes covered inCodes
      have known := (closed_known _).types mapped names _ inTypes
      have member := known.imports name (Imports.Provides.mem_requested asked)
      exact List.mem_append_left _ (List.mem_append_right _ member)

/-- What operations refer to are classes of schemas. -/
theorem mem_classNames_of_refersTo (covered : cover setting modelsModule operations = .ok coverage)
    {name : String} (refers : RefersTo coverage.codes name) : name ∈ setting.models.classNames := by
  obtain ⟨code, inCodes, type, inTypes, isModel⟩ := refers
  obtain ⟨operation, -, names, types, keywords, -, mapped, -, rfl⟩ :=
    exists_assembled_of_mem_codes covered inCodes
  exact ((closed_known _).types mapped names type inTypes).models isModel

end

/-! ## The package -/

theorem takes_packageImports {file source name : String} {names : List String} :
    (packageImports file names).Takes source name ↔ source = "." ++ file ∧ name ∈ names := by
  simp only [packageImports]
  split
  · next none_there => simp [List.isEmpty_iff.1 none_there]
  · exact Imports.takes_from_of_ne (relative_ne_builtins file)

section

variable {title modelsName endpointsName : String} {modelNames endpointNames : List String}

theorem imports_packageModule :
    (packageModule title modelsName endpointsName modelNames endpointNames).imports =
      (packageImports "_runtime" publicRuntimeNames ++ packageImports modelsName modelNames ++
        packageImports endpointsName endpointNames).statements := by
  simp only [Module.imports, packageModule]
  rw [List.filterMap_append, List.filterMap_map]
  simp [Function.comp_def, Item.import?, exports]

theorem mem_exportedNames_packageModule {name : String} :
    name ∈ (packageModule title modelsName endpointsName modelNames endpointNames).exportedNames ↔
      name ∈ publicRuntimeNames ∨ name ∈ modelNames ∨ name ∈ endpointNames := by
  have nothing (statements : List Import) :
      (statements.map fun imports => Item.statement (.importFrom imports)).flatMap
        Item.exported = [] := by
    simp [List.flatMap_eq_nil_iff, Item.exported]
  simp only [Module.exportedNames, packageModule]
  rw [List.flatMap_append, nothing, List.nil_append, List.flatMap_singleton, exported_exports,
    mem_ascending, List.mem_append, List.mem_append, or_assoc]

/-- What the package imports from where. -/
theorem importsFrom_packageModule_iff {source name : String} :
    (packageModule title modelsName endpointsName modelNames endpointNames).ImportsFrom
        source name ↔
      (source = "._runtime" ∧ name ∈ publicRuntimeNames) ∨
        (source = "." ++ modelsName ∧ name ∈ modelNames) ∨
        (source = "." ++ endpointsName ∧ name ∈ endpointNames) := by
  rw [Imports.importsFrom_iff imports_packageModule, Imports.takes_append, Imports.takes_append,
    takes_packageImports, takes_packageImports, takes_packageImports, or_assoc]
  rfl

end

section

variable {variant : Variant} {document : Document} {modelsModule : String} {coverage : Coverage}
  {models : List Model}

/-- No operation of a client defines a name that is reserved. -/
theorem not_mem_endpointReserved
    (covered : cover (.ofDocument variant document) modelsModule document.operations =
      .ok coverage) {name : String} (member : name ∈ endpointNames coverage.codes) :
    name ∉ endpointReserved (Models.ofDocument document) := by
  intro reserved
  obtain ⟨code, inCodes, inside⟩ := List.mem_flatMap.1 member
  obtain ⟨operation, -, names, types, keywords, resolved, -, -, rfl⟩ :=
    exists_assembled_of_mem_codes covered inCodes
  exact resolved.free name inside (ne_empty_of_mem_endpointReserved reserved) reserved

/-- The home of a name of the package, unless it is a class of the models module. -/
def packageHome (name : String) : String :=
  if name ∈ publicRuntimeNames then "._runtime" else ".endpoints"

/-- The package imports no name from two modules exactly if no class has the name of something that
the package takes from the runtime module. -/
theorem packageModule_importsOnce_iff
    (covered : cover (.ofDocument variant document) modelsModule document.operations =
      .ok coverage) (made : modelsOf document = .ok models) (title : String) :
    (packageModule title "models" "endpoints" (models.map (·.name))
        (endpointNames coverage.codes)).ImportsOnce ↔
      ∀ schema ∈ document.schemaNames, className schema ∉ publicRuntimeNames := by
  have free {name : String} (member : name ∈ endpointNames coverage.codes) :=
    not_mem_endpointReserved covered member
  have runtime {name : String} (member : name ∈ publicRuntimeNames) :
      name ∈ endpointReserved (Models.ofDocument document) :=
    runtimeNames_subset ((by decide : publicRuntimeNames ⊆ runtimeNames) member)
  have sources (source name : String) :
      (packageModule title "models" "endpoints" (models.map (·.name))
        (endpointNames coverage.codes)).ImportsFrom source name ↔
      (source = ".models" ∧ name ∈ models.map (·.name)) ∨
        (source = packageHome name ∧
          (name ∈ publicRuntimeNames ∨ name ∈ endpointNames coverage.codes)) := by
    rw [importsFrom_packageModule_iff]
    by_cases isPublic : name ∈ publicRuntimeNames
    · have notEndpoint : name ∉ endpointNames coverage.codes := fun member =>
        free member (runtime isPublic)
      simp only [packageHome, isPublic, notEndpoint]
      tauto
    · simp only [packageHome, isPublic, if_false]
      tauto
  have apart (name : String) (_ : name ∈ publicRuntimeNames ∨ name ∈ endpointNames coverage.codes) :
      packageHome name ≠ ".models" := by
    simp only [packageHome]
    split <;> decide
  have classes : models.map (·.name) = document.schemaNames.map className := by
    rw [map_name_modelsOf made]
    simp [Models.ofDocument, Models.ofSchemas, Models.classNames, Function.comp_def]
  rw [Module.importsOnce_iff sources apart, classes, List.forall_mem_map]
  refine forall₂_congr fun schema member => ?_
  have isClass : className schema ∈ endpointReserved (Models.ofDocument document) := by
    apply classNames_subset
    rw [← map_name_modelsOf made, classes]
    exact List.mem_map_of_mem member
  have notEndpoint : className schema ∉ endpointNames coverage.codes := fun member =>
    free member isClass
  simp only [notEndpoint, or_false]

end

end Bindery.Client

namespace Bindery.Run

open Bindery.Api Bindery.Client Bindery.Code Bindery.Files Bindery.Naming Bindery.Plan
  Bindery.Steps Bindery.Typing

variable {compiler : Compiler} {settings : Settings} {document : Document} {tree after : Tree}
  {result : Result}

/-- The package of a client. -/
def packageOf (settings : Settings) (document : Document) (models : List Model)
    (coverage : Coverage) : Module :=
  packageModule document.title (moduleName settings.modelsFile) (moduleName settings.endpointsFile)
    (models.map (·.name)) (endpointNames coverage.codes)

theorem WritesFiles.exists_modelsOf {module : Module} {exported : List String}
    {files : List Destination}
    (written : WritesFiles compiler settings document module exported tree files after) :
    ∃ models, modelsOf document = .ok models := by
  obtain ⟨-, -, made, -⟩ := written
  exact ⟨_, made⟩

/-- What a client imports from where.  The endpoints module imports no name from two modules exactly
if no class that its operations refer to has the name of something that their code needs from
elsewhere; the package does not exactly if no class at all has the name of something that the
package takes from the runtime module.  All that the package exports it imports. -/
theorem names_imported_once_iff
    (done : (generateFrom compiler settings document).Gives tree result after)
    (modelsFile : settings.modelsFile = "models.py")
    (endpointsFile : settings.endpointsFile = "endpoints.py") :
    ∃ coverage models,
      coverageOf settings document = .ok coverage ∧ modelsOf document = .ok models ∧
      WritesFiles compiler settings document (endpointsModule coverage.codes)
        (endpointNames coverage.codes) tree result.files after ∧
      ((endpointsModule coverage.codes).ImportsOnce ↔
        ∀ name, RefersTo coverage.codes name →
          ¬ ∃ code ∈ coverage.codes, Needs code.plan name) ∧
      ((packageOf settings document models coverage).ImportsOnce ↔
        ∀ schema ∈ document.schemaNames, className schema ∉ publicRuntimeNames) ∧
      (∀ name ∈ (packageOf settings document models coverage).exportedNames,
        ∃ source, (packageOf settings document models coverage).ImportsFrom source name) ∧
      ∀ name ∈ publicRuntimeNames,
        name ∈ (packageOf settings document models coverage).exportedNames ∧
          (packageOf settings document models coverage).ImportsFrom "._runtime" name := by
  obtain ⟨coverage, covered, -, written⟩ := gives_generateFrom done
  obtain ⟨models, made⟩ := written.exists_modelsOf
  have modelsName : moduleName settings.modelsFile = "models" := by
    rw [modelsFile]
    decide +kernel
  have endpointsName : moduleName settings.endpointsFile = "endpoints" := by
    rw [endpointsFile]
    decide +kernel
  have emitted := relative_ne_builtins (moduleName settings.modelsFile)
  have apart (name : String) (_ : ∃ code ∈ coverage.codes, Needs code.plan name) :
      endpointsHome name ≠ "." ++ moduleName settings.modelsFile := by
    intro same
    have member := endpointsHome_mem name
    rw [same, modelsName] at member
    revert member
    decide
  refine ⟨coverage, models, covered, made, written, ?_, ?_, ?_, ?_⟩
  · exact Module.importsOnce_iff (fun _ _ => importsFrom_endpointsModule_iff emitted covered) apart
  · rw [packageOf, modelsName, endpointsName]
    exact packageModule_importsOnce_iff covered made document.title
  · intro name exported
    rcases mem_exportedNames_packageModule.1 exported with isPublic | isModel | isEndpoint
    · exact ⟨_, importsFrom_packageModule_iff.2 (.inl ⟨rfl, isPublic⟩)⟩
    · exact ⟨_, importsFrom_packageModule_iff.2 (.inr (.inl ⟨rfl, isModel⟩))⟩
    · exact ⟨_, importsFrom_packageModule_iff.2 (.inr (.inr ⟨rfl, isEndpoint⟩))⟩
  · intro name isPublic
    exact ⟨mem_exportedNames_packageModule.2 (.inl isPublic),
      importsFrom_packageModule_iff.2 (.inl ⟨rfl, isPublic⟩)⟩

/-- The class of the shop is called after nothing that is needed from elsewhere. -/
theorem petShop_names_imported_once :
    ∃ result after coverage models,
      (generateFrom .strict shopSettings petShop).Gives .empty result after ∧
      coverageOf shopSettings petShop = .ok coverage ∧ modelsOf petShop = .ok models ∧
      (endpointsModule coverage.codes).ImportsOnce ∧
      (packageOf shopSettings petShop models coverage).ImportsOnce := by
  obtain ⟨result, after, done, -⟩ := exists_gives_petShop
  obtain ⟨coverage, models, covered, made, -, endpoints, package, -, -⟩ :=
    names_imported_once_iff done rfl rfl
  refine ⟨result, after, coverage, models, done, covered, made, endpoints.2 ?_, package.2 ?_⟩
  · rintro name refers ⟨code, inCodes, needs⟩
    have isClass := mem_classNames_of_refersTo covered refers
    have isNeeded := mem_of_needs covered inCodes needs
    have clear : ∀ name ∈ (Models.ofDocument petShop).classNames,
        name ∉ runtimeNames ++ annotationImports ++ modelBaseNames := by
      decide +kernel
    exact clear name isClass isNeeded
  · decide +kernel

/-- A description with a schema that is called like something of the runtime module. -/
def cockpit : Document where
  title := "Cockpit"
  baseUrl := some "https://cockpit.test"
  schemas := [("Configuration", {})]
  operations := [{ name := "ping", returnType := some { ref := some "Configuration" } }]

/-- Both modules import the name from two modules.  The package exports it, and the later of the
statements that bind it is the one for the class. -/
theorem cockpit_imports_twice :
    ∃ result after coverage models,
      (generateFrom .strict shopSettings cockpit).Gives .empty result after ∧
      coverageOf shopSettings cockpit = .ok coverage ∧ modelsOf cockpit = .ok models ∧
      (endpointsModule coverage.codes).ImportsFrom "._runtime" "Configuration" ∧
      (endpointsModule coverage.codes).ImportsFrom ".models" "Configuration" ∧
      "Configuration" ∈ (packageOf shopSettings cockpit models coverage).exportedNames ∧
      ((packageOf shopSettings cockpit models coverage).imports.filter
        ("Configuration" ∈ ·.names)).map (·.module) = ["._runtime", ".models"] := by
  have runs : ((generateFrom .strict shopSettings cockpit).run.run .empty).1.toOption.map
      (·.failures.length) = some 0 := by
    decide +kernel
  obtain ⟨result, after, done, -⟩ := Action.exists_gives runs
  obtain ⟨coverage, covered, -, written⟩ := gives_generateFrom done
  obtain ⟨models, made⟩ := written.exists_modelsOf
  have twice : (coverageOf shopSettings cockpit).toOption.bind (fun coverage =>
      (modelsOf cockpit).toOption.map fun models => decide (
        (endpointsModule coverage.codes).ImportsFrom "._runtime" "Configuration" ∧
        (endpointsModule coverage.codes).ImportsFrom ".models" "Configuration" ∧
        "Configuration" ∈ (packageOf shopSettings cockpit models coverage).exportedNames ∧
        ((packageOf shopSettings cockpit models coverage).imports.filter
          ("Configuration" ∈ ·.names)).map (·.module) = ["._runtime", ".models"])) = some true := by
    decide +kernel
  rw [covered, made] at twice
  exact ⟨result, after, coverage, models, done, covered, made,
    of_decide_eq_true (Option.some.inj twice)⟩

end Bindery.Run

import Bindery.Proofs.ModelClasses
import Bindery.Proofs.Spelling

/-!
# The names that definitions introduce

A definition introduces more names than its own: a class those of its fields and methods, a function
those of its arguments and locals.  In both modules these are the names that were derived from the
description, beside a few that are always the same.  So whether a module introduces only what can be
a name is a question about the description alone, and it is answered here operation by operation and
schema by schema.
-/

namespace Bindery.Code

/-- The names that a function introduces: its own and those of its locals. -/
def Function.introduced (function : Function) : List String := function.name :: function.locals

/-- The names that a member of a class introduces. -/
def Member.introduced : Member → List String
  | .statement line => line.binds
  | .method function => function.introduced

/-- The names that a class introduces: its own and those of its members. -/
def ClassDefinition.introduced (definition : ClassDefinition) : List String :=
  definition.name :: definition.body.flatMap Member.introduced

/-- The names that an item of a module introduces if it is a definition. -/
def Item.introduced : Item → List String
  | .statement _ => []
  | .function code => code.introduced
  | .class_ definition => definition.introduced

/-- The names that the definitions of a module introduce. -/
def Module.introduced (module : Module) : List String := module.body.flatMap Item.introduced

end Bindery.Code

namespace Bindery.Client

open Bindery.Api Bindery.Code Bindery.Naming Bindery.Plan Bindery.Steps Bindery.Typing

/-! ## The classes of an operation -/

/-- The names that every client introduces alike. -/
def commonNames : List String :=
  ["configuration", "params", "cls", "self", "value", "builder", "build", "model_config",
    "__slots__", "__init__"]

theorem isName_of_mem_commonNames : ∀ name ∈ commonNames, isName name = true := by
  decide +kernel

variable {name : String}

theorem not_mem_commonNames_iff :
    name ∉ commonNames ↔
      name ≠ "configuration" ∧ name ≠ "params" ∧ name ≠ "cls" ∧ name ≠ "self" ∧
        name ≠ "value" ∧ name ≠ "builder" ∧ name ≠ "build" ∧ name ≠ "model_config" ∧
        name ≠ "__slots__" ∧ name ≠ "__init__" := by
  simp [commonNames]

theorem mem_introduced_optionsClass {options : Options} {builder : Builder}
    (derived : name ∉ commonNames) :
    name ∈ (optionsClass options builder).definition.introduced ↔
      name = options.name ∨ name ∈ options.fields.map (·.name) := by
  have apart := not_mem_commonNames_iff.1 derived
  simp [ClassDefinition.introduced, optionsClass, Member.introduced, Statement.binds,
    fieldStatement, builderMethod, Function.introduced, Function.locals, Function.bound,
    Arguments.names, apart, eq_comm]

theorem mem_introduced_builderClass {options : Options} (derived : name ∉ commonNames) :
    name ∈ (builderClass (.make options)).definition.introduced ↔
      name = Naming.builderClass options.name ∨ name ∈ options.fields.map (·.name) := by
  have apart := not_mem_commonNames_iff.1 derived
  simp [ClassDefinition.introduced, builderClass, Builder.make, method, setterMethod,
    Member.introduced, Statement.binds, Setter.name, Function.introduced, Function.locals,
    Function.bound, Arguments.names, apart, eq_comm]

theorem mem_introduced_endpointFunction {plan : OperationPlan} {function : Function}
    (holds : HoldsParameters plan function) (derived : name ∉ commonNames) :
    name ∈ function.introduced ↔
      name = function.name ∨ name ∈ plan.bindings.map (·.name) := by
  have apart := not_mem_commonNames_iff.1 derived
  simp only [Function.introduced, Function.locals, List.mem_cons, List.mem_append]
  cases uses : plan.usesOptions with
  | true =>
      obtain ⟨arguments, bound⟩ := holds.gathered uses
      simp [arguments, bound, apart]
  | false =>
      obtain ⟨arguments, bound⟩ := holds.listed uses
      simp [arguments.mem_iff, bound, apart]

/-! ## The code of an operation -/

/-- The classes of an operation introduce their own names and, if there are any, the members. -/
theorem mem_introduced_classesOf {setting : Setting} {operation : Operation} {names : Names}
    {types : OperationTypes} {usesOptions : Bool}
    (resolved : names.Resolved setting.reserved operation usesOptions)
    (mapped : mapTypes setting.models operation = .ok types) (derived : name ∉ commonNames) :
    (∃ code ∈ OperationCode.classesOf (.assemble operation names types),
        name ∈ code.definition.introduced) ↔
      name ∈ names.classes ∨ (names.optionsClass ≠ none ∧ name ∈ names.members) := by
  have members := (fields_of_resolved resolved mapped).2
  have builderClass : names.builderClass = names.optionsClass.map Naming.builderClass := by
    rw [resolved.heading]
    rfl
  cases found : names.optionsClass with
  | none =>
      have unused := optionsOf_eq_none operation types found
      simp [OperationCode.classesOf, OperationPlan.assemble, unused, Names.classes, found,
        builderClass]
  | some optionsName =>
      rw [classesOf_of_options rfl (optionsOf_eq_some operation types found)]
      simp only [List.mem_cons, List.not_mem_nil, or_false, exists_eq_or_imp, exists_eq_left,
        mem_introduced_optionsClass derived, mem_introduced_builderClass derived, members,
        Names.classes, found, builderClass]
      simp
      tauto

/-- The code of an operation introduces the names that were derived from the operation. -/
theorem mem_introduced_items {setting : Setting} {modelsModule : String} {operation : Operation}
    {names : Names} {types : OperationTypes} {usesOptions : Bool} {keywords : List (String × Expr)}
    (resolved : names.Resolved setting.reserved operation usesOptions)
    (mapped : mapTypes setting.models operation = .ok types) (derived : name ∉ commonNames) :
    name ∈ (OperationCode.assemble modelsModule (.assemble operation names types)
        keywords).items.flatMap Item.introduced ↔
      name ∈ names.moduleNames ∨ name ∈ names.members := by
  have function (isAsync : Bool) := mem_introduced_endpointFunction
    (holdsParameters_assemble operation names types keywords isAsync) derived
  have classes := mem_introduced_classesOf resolved mapped derived
  rw [bindings_assemble resolved mapped] at function
  simp only [OperationCode.items, OperationCode.assemble, List.flatMap_append, List.flatMap_map,
    List.flatMap_cons, List.flatMap_nil, List.append_nil, List.mem_append, List.mem_flatMap,
    Item.introduced, classes, function, Names.moduleNames, List.mem_cons]
  simp only [endpointFunction, if_true, Bool.false_eq_true, if_false, OperationPlan.assemble]
  tauto

/-! ## The modules -/

variable {variant : Variant} {document : Document} {modelsName : String} {coverage : Coverage}
  {setting : Setting}

/-- Beside the names that every client has, the definitions of the endpoints module introduce those
that were derived from the operations in it. -/
theorem mem_introduced_endpointsModule {operations : List Operation}
    (covered : cover setting modelsName operations = .ok coverage) (derived : name ∉ commonNames) :
    name ∈ (endpointsModule coverage.codes).introduced ↔
      ∃ code ∈ coverage.codes, name ∈ code.plan.names.moduleNames ∨
        name ∈ code.plan.names.members := by
  have ofItems : (endpointsModule coverage.codes).introduced =
      coverage.codes.flatMap fun code => code.items.flatMap Item.introduced := by
    simp [Module.introduced, endpointsModule, Item.introduced, List.flatMap_assoc]
  rw [ofItems, List.mem_flatMap]
  refine exists_congr fun code => and_congr_right fun inCodes => ?_
  obtain ⟨operation, -, names, types, keywords, resolved, mapped, -, rfl⟩ :=
    exists_assembled_of_mem_codes covered inCodes
  exact mem_introduced_items resolved mapped derived

/-- Beside the names that every client has, the definitions of the models module introduce those of
the classes and of their fields. -/
theorem mem_introduced_modelsModule {models : List Model} (derived : name ∉ commonNames) :
    name ∈ (modelsModule models).introduced ↔
      ∃ model ∈ models, name = model.name ∨ name ∈ model.fields.map (·.name) := by
  have apart := not_mem_commonNames_iff.1 derived
  simp [Module.introduced, modelsModule, Item.introduced, Model.rebuild, Model.definition,
    ClassDefinition.introduced, Member.introduced, Statement.binds, ModelField.statement, apart,
    @eq_comm _ name]

/-! ## Which of them can be names -/

/-- Where names come from parts, but for those of every client, they can all be names exactly if
those of every part can. -/
theorem forall_isName_iff {α : Type} {found : List String} {parts : List α}
    {derived : α → String → Prop}
    (same : ∀ name, name ∉ commonNames → (name ∈ found ↔ ∃ part ∈ parts, derived part name)) :
    (∀ name ∈ found, isName name = true) ↔
      ∀ part ∈ parts, ∀ name, derived part name → isName name = true := by
  constructor
  · intro names part inParts name isDerived
    by_cases common : name ∈ commonNames
    · exact isName_of_mem_commonNames name common
    · exact names name ((same name common).2 ⟨part, inParts, isDerived⟩)
  · intro names name member
    by_cases common : name ∈ commonNames
    · exact isName_of_mem_commonNames name common
    · obtain ⟨part, inParts, isDerived⟩ := (same name common).1 member
      exact names part inParts name isDerived

/-- An operation all of whose derived names can be names.  Something remains of its name, no keyword
comes to light in it, and none is made by the letter in front of the asynchronous function; and no
keyword comes to light in the name of a parameter. -/
structure Nameable (reserved : List String) (operation : Operation) : Prop where
  remains : legible operation.name ≠ ""
  function : ¬ HidesKeyword builtins operation.name
  async : "a" ++ legible operation.name ∉ keywords
  parameters : ∀ parameter ∈ operation.parameters,
    ¬ HidesKeyword (parameterReserved reserved) parameter.name

instance (reserved : List String) : DecidablePred (Nameable reserved) := fun operation =>
  decidable_of_iff
    (legible operation.name ≠ "" ∧ ¬ HidesKeyword builtins operation.name ∧
      "a" ++ legible operation.name ∉ keywords ∧
      ∀ parameter ∈ operation.parameters,
        ¬ HidesKeyword (parameterReserved reserved) parameter.name)
    ⟨fun ⟨remains, function, async, parameters⟩ => ⟨remains, function, async, parameters⟩,
      fun ⟨remains, function, async, parameters⟩ => ⟨remains, function, async, parameters⟩⟩

theorem isName_of_mem_classes {reserved : List String} {operation : Operation} {names : Names}
    {usesOptions : Bool} (resolved : names.Resolved reserved operation usesOptions) :
    ∀ name ∈ names.classes, isName name = true := by
  rw [resolved.heading]
  cases usesOptions with
  | false => simp [Names.classes, Names.heading]
  | true =>
      simp [Names.classes, Names.heading, isName_optionsClass operation.name,
        isName_builderClass operation.name]

theorem isName_moduleNames_iff {reserved : List String} {operation : Operation} {names : Names}
    {usesOptions : Bool} (resolved : names.Resolved reserved operation usesOptions) :
    (∀ name, name ∈ names.moduleNames ∨ name ∈ names.members → isName name = true) ↔
      Nameable reserved operation := by
  have members : (∀ parameter ∈ operation.parameters,
        ¬ HidesKeyword (parameterReserved reserved) parameter.name) ↔
      ∀ name ∈ names.members, isName name = true :=
    forall_mem_iff_of_forall₂ (forall₂_memberName resolved.members)
      fun _ _ derived => (isName_member_iff derived).symm
  have asyncFunction : names.asyncFunction = "a" ++ names.function := by
    rw [resolved.heading]
    rfl
  simp only [or_imp, forall_and, Names.moduleNames, List.forall_mem_cons, asyncFunction,
    isName_functionName_iff resolved.function, isName_asyncName_iff resolved.function, ← members]
  constructor
  · rintro ⟨⟨⟨remains, function⟩, async, -⟩, parameters⟩
    exact ⟨remains, function, async, parameters⟩
  · rintro ⟨remains, function, async, parameters⟩
    exact ⟨⟨⟨remains, function⟩, async, isName_of_mem_classes resolved⟩, parameters⟩

/-- The fields of a class have names that can be names, unless a keyword comes to light in the name
of a property.  A name that is taken gets an underscore, but the first of that name has none. -/
theorem forall_isName_modelFields_iff {models : Models} {schemaName : String}
    {required taken : List String} {properties : List (String × TypeRef)}
    {fields : List ModelField} (names : ∀ name ∈ taken, isName name = true)
    (made : modelFields models schemaName required taken properties = .ok fields) :
    (∀ field ∈ fields, isName field.name = true) ↔
      ∀ declared ∈ properties, ¬ HidesKeyword (propertyReserved models) declared.1 := by
  induction properties generalizing taken fields with
  | nil =>
      cases made
      simp
  | cons declared rest ih =>
      obtain ⟨mapped, -, made⟩ := bind_eq_ok_iff.1 made
      obtain ⟨name, derived, made⟩ := bind_eq_ok_iff.1 made
      obtain ⟨more, later, made⟩ := bind_eq_ok_iff.1 made
      cases made
      have derived := mapError_eq_ok_iff.1 derived
      rw [List.forall_mem_cons, List.forall_mem_cons, ← isName_member_iff derived]
      -- Only names that are taken get an underscore, and those can all be names already.
      by_cases isTaken : name ∈ taken
      · rw [if_pos isTaken] at later ⊢
        have marked := isName_append_underscore (spelled_member derived) (member_ne_empty derived)
        rw [and_iff_right marked, and_iff_right (names name isTaken)]
        exact ih (List.forall_mem_cons.2 ⟨marked, names⟩) later
      · rw [if_neg isTaken] at later ⊢
        exact and_congr_right fun valid => ih (List.forall_mem_cons.2 ⟨valid, names⟩) later

/-- A schema all of whose derived names can be names: its class has none of the keywords with a
capital, and no keyword comes to light in the name of a property. -/
structure NameableSchema (models : Models) (name : String) (schema : Schema) : Prop where
  class_ : className name ∉ keywordClasses
  properties : ∀ declared ∈ schema.properties,
    ¬ HidesKeyword (propertyReserved models) declared.1

instance (models : Models) (name : String) (schema : Schema) :
    Decidable (NameableSchema models name schema) :=
  decidable_of_iff
    (className name ∉ keywordClasses ∧
      ∀ declared ∈ schema.properties, ¬ HidesKeyword (propertyReserved models) declared.1)
    ⟨fun ⟨class_, properties⟩ => ⟨class_, properties⟩,
      fun ⟨class_, properties⟩ => ⟨class_, properties⟩⟩

theorem isName_model_iff {document : Document} {schemaName : String} {schema : Schema}
    {model : Model} (made : Model.make (.ofDocument document) schemaName schema = .ok model) :
    (∀ name, name = model.name ∨ name ∈ model.fields.map (·.name) → isName name = true) ↔
      NameableSchema (.ofDocument document) schemaName schema := by
  have className_eq := name_of_make made
  obtain ⟨fields, found, same⟩ := map_eq_ok_iff.1 made
  have fields_eq : model.fields = fields := by rw [← same]
  have properties := forall_isName_modelFields_iff (List.forall_mem_nil _) found
  simp only [or_imp, forall_and, forall_eq, List.forall_mem_map, className_eq, fields_eq,
    isName_className_iff, properties]
  exact ⟨fun ⟨class_, properties⟩ => ⟨class_, properties⟩,
    fun ⟨class_, properties⟩ => ⟨class_, properties⟩⟩

/-! ## Both modules -/

/-- The definitions of a module introduce only what can be a name exactly if every operation and
every schema in it is one all of whose derived names can be. -/
theorem introduced_names_iff (variant : Variant) (document : Document) (modelsName : String) :
    (∀ coverage, cover (.ofDocument variant document) modelsName document.operations =
        .ok coverage →
      ((∀ name ∈ (endpointsModule coverage.codes).introduced, isName name = true) ↔
        ∀ code ∈ coverage.codes,
          Nameable (endpointReserved (.ofDocument document)) code.plan.operation)) ∧
    ∀ models, modelsOf document = .ok models →
      ((∀ name ∈ (modelsModule models).introduced, isName name = true) ↔
        ∀ declared ∈ document.schemas,
          NameableSchema (.ofDocument document) declared.1 declared.2) := by
  constructor
  · intro coverage covered
    rw [forall_isName_iff fun name derived => mem_introduced_endpointsModule covered derived]
    refine forall₂_congr fun code inCodes => ?_
    obtain ⟨operation, -, names, types, keywords, resolved, -, -, rfl⟩ :=
      exists_assembled_of_mem_codes covered inCodes
    exact isName_moduleNames_iff resolved
  · intro models made
    rw [forall_isName_iff fun name derived => mem_introduced_modelsModule derived]
    exact (forall_mem_iff_of_forall₂ (mapM_eq_ok_iff.1 made)
      fun _ _ done => (isName_model_iff done).symm).symm

/-- All names that are introduced for the pet shop can be names. -/
theorem petShop_introduces_names :
    ∃ coverage models,
      cover (.ofDocument .options petShop) ".models" petShop.operations = .ok coverage ∧
      modelsOf petShop = .ok models ∧
      (∀ name ∈ (endpointsModule coverage.codes).introduced, isName name = true) ∧
      ∀ name ∈ (modelsModule models).introduced, isName name = true := by
  have models : (modelsOf petShop).toOption.isSome = true := by
    decide +kernel
  have nameable : ∀ operation ∈ petShop.operations,
      Nameable (endpointReserved (.ofDocument petShop)) operation := by
    decide +kernel
  have nameableSchemas : ∀ declared ∈ petShop.schemas,
      NameableSchema (.ofDocument petShop) declared.1 declared.2 := by
    decide +kernel
  obtain ⟨coverage, covered, -⟩ := exists_cover_petShop
  obtain ⟨models, made⟩ := isSome_toOption_iff.1 models
  obtain ⟨endpoints, modelClasses⟩ := introduced_names_iff .options petShop ".models"
  refine ⟨coverage, models, covered, made, ?_, (modelClasses models made).2 nameableSchemas⟩
  refine (endpoints coverage covered).2 fun code inCodes => ?_
  obtain ⟨operation, inOperations, planned, -⟩ := exists_planned_of_mem_codes covered inCodes
  rw [operation_of_plan planned]
  exact nameable operation inOperations

/-- A description whose names hide keywords, and one with a name of which nothing remains. -/
def masked : Document where
  schemas := [("none", { properties := [("from!", { type := some "string" })] })]
  operations := [
    { name := "s" },
    { name := "!!!" },
    { name := "find", parameters := [{ name := "class!", location := .query }] }]

/-- The keywords come to light, and nothing becomes of the name of a function. -/
theorem masked_introduces_keywords :
    ∃ coverage models,
      cover (.ofDocument .options masked) ".models" masked.operations = .ok coverage ∧
      modelsOf masked = .ok models ∧
      (∀ name ∈ ["as", "", "class"],
        name ∈ (endpointsModule coverage.codes).introduced ∧ isName name = false) ∧
      ∀ name ∈ ["None", "from"], name ∈ (modelsModule models).introduced ∧ isName name = false := by
  have endpoints : (cover (.ofDocument .options masked) ".models"
      masked.operations).toOption.map (fun coverage => ["as", "", "class"].all fun name =>
        decide (name ∈ (endpointsModule coverage.codes).introduced) && ! isName name) =
      some true := by
    decide +kernel
  have modelClasses : (modelsOf masked).toOption.map (fun models => ["None", "from"].all fun name =>
      decide (name ∈ (modelsModule models).introduced) && ! isName name) = some true := by
    decide +kernel
  obtain ⟨coverage, covered, endpoints⟩ := toOption_map_eq_some_iff.1 endpoints
  obtain ⟨models, made, modelClasses⟩ := toOption_map_eq_some_iff.1 modelClasses
  refine ⟨coverage, models, covered, made, ?_, ?_⟩
  · simpa only [List.all_eq_true, Bool.and_eq_true, decide_eq_true_eq, Bool.not_eq_true'] using
      endpoints
  · simpa only [List.all_eq_true, Bool.and_eq_true, decide_eq_true_eq, Bool.not_eq_true'] using
      modelClasses

end Bindery.Client

import Bindery.Proofs.Locals

/-!
# Every name that an operation reads is bound

The imports of a module are put together from what each piece of code asks for, and no piece asks
for everything that it reads: classes leave the model classes of their fields to the functions,
and names of other classes to the module that defines them.  Whatever the pieces read is still
bound: it is always there, one of the pieces asks for it, or one of them defines it.
-/

namespace Bindery.Code

/-! ## Where names come from -/

/-- Imports that provide whatever others provide. -/
def Imports.Includes (imports piece : Imports) : Prop :=
  ∀ name, piece.Provides name → imports.Provides name

/-- A name that code can read if these imports are asked for and these names are defined beside
it. -/
inductive Visible (imports : Imports) (defined : List String) (name : String) : Prop where
  | builtin : name ∈ builtins → Visible imports defined name
  | imported : imports.Provides name → Visible imports defined name
  | defined : name ∈ defined → Visible imports defined name

theorem Visible.mono {imports more : Imports} {defined further : List String} {name : String}
    (visible : Visible imports defined name)
    (asked : more.Includes imports) (subset : defined ⊆ further) :
    Visible more further name := by
  cases visible with
  | builtin member => exact .builtin member
  | imported provided => exact .imported (asked name provided)
  | defined member => exact .defined (subset member)

/-- A module that reads nothing but names that are always there, names that its import statements
bind, and its own classes and functions. -/
def Module.Scoped (module : Module) : Prop :=
  ∀ name ∈ module.globals,
    name ∈ builtins ∨ name ∈ module.importedNames ∨ name ∈ module.definedNames

/-- A module is scoped if everything it reads is visible for imports that its statements are made
from. -/
theorem Module.scoped_of_visible {module : Module} {imports : Imports}
    (stated : imports.statements ⊆ module.imports)
    (visible : ∀ name ∈ module.globals, Visible imports module.definedNames name) :
    module.Scoped := by
  intro name member
  cases visible name member with
  | builtin isBuiltin => exact .inl isBuiltin
  | imported provided =>
      obtain ⟨statement, inStatements, inside⟩ :=
        List.mem_flatMap.1 (Imports.mem_names_statements.2 provided)
      exact .inr (.inl (List.mem_flatMap_of_mem (stated inStatements) inside))
  | defined isDefined => exact .inr (.inr isDefined)

/-- What holds of every name that is read where a function is defined, and of every name that its
body reads and does not bind, holds of every global of the function. -/
theorem Function.forall_mem_globals {function : Function} {property : String → Prop}
    (head : ∀ name ∈ function.headReads, property name)
    (body : ∀ name ∈ function.bodyReads, name ∈ function.locals ∨ property name) :
    ∀ name ∈ function.globals, property name := by
  intro name member
  rcases List.mem_append.1 member with inHead | inBody
  · exact head name inHead
  · obtain ⟨isRead, free⟩ := List.mem_filter.1 inBody
    exact (body name isRead).resolve_left (of_decide_eq_true free)

end Bindery.Code

namespace Bindery.Client

open Bindery.Api Bindery.Code Bindery.Plan Bindery.Steps Bindery.Typing

variable {imports : Imports} {defined : List String} {modelsModule : String}

/-! ## Annotations -/

theorem typeImports_optional (modelsModule : String) (type : Mapped) :
    typeImports modelsModule type.optional = typeImports modelsModule type := by
  simp only [typeImports, Mapped.optional_imports, Mapped.optional_models]

theorem provides_typeImports_of_mem_models {type : Mapped} {name : String}
    (emitted : modelsModule ≠ "builtins") (member : name ∈ type.models) :
    (typeImports modelsModule type).Provides name := by
  have some_model : type.models.isEmpty = false :=
    List.isEmpty_eq_false_iff.2 (List.ne_nil_of_mem member)
  simp only [typeImports, some_model]
  exact .right (.from_ member emitted)

/-- An annotation that reads nothing but visible names. -/
def Readable (imports : Imports) (defined : List String) (type : Mapped) : Prop :=
  ∀ name ∈ type.expr.annotated, Visible imports defined name

/-- An annotation is readable if its imports are asked for and its model classes are visible. -/
theorem readable_of_accounted {type : Mapped} (accounted : type.Accounted)
    (asked : imports.Includes type.imports)
    (models : ∀ name ∈ type.models, Visible imports defined name) :
    Readable imports defined type := by
  have always : annotationBuiltins ⊆ builtins := by decide +kernel
  intro name member
  rcases accounted name member with isBuiltin | provided | isModel
  · exact .builtin (always isBuiltin)
  · exact .imported (asked name provided)
  · exact models name isModel

/-- An annotation is readable if its model classes are imported with everything else that it refers
to. -/
theorem readable_of_includes {type : Mapped} (accounted : type.Accounted)
    (emitted : modelsModule ≠ "builtins")
    (asked : imports.Includes (typeImports modelsModule type)) : Readable imports defined type := by
  apply readable_of_accounted accounted
  case asked => exact fun name provided => asked name (.left provided)
  case models =>
    exact fun name isModel =>
      .imported (asked name (provides_typeImports_of_mem_models emitted isModel))

/-! ## Classes -/

/-- The declaration of a field reads its annotation, and the name that describes it if there is a
description. -/
theorem visible_fieldStatement {field : Field}
    (asked : imports.Includes (fieldImports field))
    (type : Readable imports defined field.optionalType) :
    ∀ name ∈ (fieldStatement field).reads, Visible imports defined name := by
  intro name member
  rcases List.mem_append.1 member with inType | inValue
  · exact type name inType
  · split at inValue
    · next described =>
        have isField : name = "Field" := by simpa using inValue
        subst isField
        have provided : (fieldImports field).Provides "Field" := by
          simp only [fieldImports]
          rw [described]
          exact .right (.from_ (by decide) (by decide))
        exact .imported (asked _ provided)
    · cases inValue

theorem visible_builderMethod {builder : String} (built : builder ∈ defined) :
    ∀ name ∈ (builderMethod builder).globals, Visible imports defined name := by
  apply Function.forall_mem_globals
  case head =>
    intro name member
    have either : name = "classmethod" ∨ name = builder := by
      simpa [Function.headReads, builderMethod, Arguments.annotations] using member
    rcases either with rfl | rfl
    · exact .builtin (by decide +kernel)
    · exact .defined built
  case body =>
    intro name member
    have isBuilder : name = builder := by
      simpa [Function.bodyReads, builderMethod, Statement.reads] using member
    subst isBuilder
    exact .inr (.defined built)

/-- The class of an options type reads visible names only, if its imports are asked for, its
annotations are readable, and its builder is defined. -/
theorem visible_optionsClass {options : Options} {builder : Builder}
    (asked : imports.Includes (optionsClass options builder).imports)
    (types : ∀ field ∈ options.fields, Readable imports defined field.optionalType)
    (built : builder.name ∈ defined) :
    ∀ name ∈ (optionsClass options builder).definition.globals, Visible imports defined name := by
  have base {name : String} (member : name ∈ ["BaseModel", "ConfigDict"]) :
      Visible imports defined name :=
    .imported (asked name (.left (.from_ member (by decide))))
  intro name member
  simp only [ClassDefinition.globals, optionsClass, List.flatMap_append, List.flatMap_cons,
    List.flatMap_nil, List.append_nil, List.flatMap_map, List.mem_append, List.mem_flatMap]
    at member
  rcases member with isBase | (isConfig | ⟨field, inFields, inside⟩) | inStart
  · exact base (List.mem_cons.2 (.inl (List.mem_singleton.1 isBase)))
  · have isConfigDict : name = "ConfigDict" := by
      simpa [Member.globals, Statement.reads] using isConfig
    subst isConfigDict
    exact base (by decide)
  · have fieldAsked : imports.Includes (fieldImports field) := fun name provided =>
      asked name (.right (.all (List.mem_map_of_mem inFields) provided))
    exact visible_fieldStatement fieldAsked (types field inFields) name inside
  · exact visible_builderMethod built name inStart

/-- What a method reads beside itself and its arguments is visible if its annotations and its body
read nothing else. -/
theorem visible_method {name : String} {arguments : List Argument} {returns : Expr}
    {body : List Statement}
    (types : ∀ type ∈ arguments.filterMap (·.type), ∀ name ∈ type.annotated,
      Visible imports defined name)
    (result : ∀ name ∈ returns.annotated, Visible imports defined name)
    (inner : ∀ name ∈ body.flatMap (·.reads),
      name ∈ "self" :: arguments.map (·.name) ∨ Visible imports defined name) :
    ∀ read ∈ (method name arguments returns body).globals, Visible imports defined read := by
  apply Function.forall_mem_globals
  case head =>
    intro read member
    simp only [Function.headReads, Arguments.annotations, List.flatMap_nil, List.nil_append,
      List.filterMap_nil, List.append_nil, List.filterMap_cons_none, List.flatMap_append,
      Option.toList_some, List.flatMap_cons, List.mem_append, List.mem_flatMap] at member
    rcases member with ⟨type, isType, inside⟩ | inResult
    · exact types type isType read inside
    · exact result read inResult
  case body =>
    intro read member
    refine (inner read member).imp_left fun isArgument => ?_
    simp only [Function.locals, Arguments.names, List.map_nil, List.append_nil]
    exact List.mem_append_left _ isArgument

/-- A setter reads the annotation of its value, which is that of its field unless it converts any
value. -/
theorem visible_setterMethod {builder : String} {setter : Setter} (built : builder ∈ defined)
    (type : Readable imports defined setter.field.type) :
    ∀ name ∈ (setterMethod builder setter).globals, Visible imports defined name := by
  apply visible_method
  case types =>
    intro shown isType name inside
    cases List.mem_singleton.1 isType
    simp only [setterTypeExpr] at inside
    split at inside
    · cases List.mem_singleton.1 inside
      exact .builtin (by decide +kernel)
    · exact type name inside
  case result =>
    intro name inside
    cases List.mem_singleton.1 inside
    exact .defined built
  case inner =>
    intro name member
    simp only [List.flatMap_cons, List.flatMap_nil, List.append_nil, List.mem_append,
      Statement.reads, selfCall, setterValue, Expr.reads_field, Expr.reads_call,
      Expr.reads_name, List.mem_singleton] at member
    rcases member with (rfl | inValue) | rfl
    · exact .inl List.mem_cons_self
    · split at inValue
      · have either : name = "str" ∨ name = "value" := by simpa using inValue
        rcases either with rfl | rfl
        · exact .inr (.builtin (by decide +kernel))
        · exact .inl (by simp)
      · cases List.mem_singleton.1 inValue
        exact .inl (by simp)
    · exact .inl List.mem_cons_self

/-- The class of a builder reads visible names only, if its imports are asked for, its annotations
are readable, and it is defined beside its target. -/
theorem visible_builderClass {builder : Builder}
    (asked : imports.Includes (builderClass builder).imports)
    (types : ∀ setter ∈ builder.setters, Readable imports defined setter.field.type)
    (target : builder.target.name ∈ defined) (built : builder.name ∈ defined) :
    ∀ name ∈ (builderClass builder).definition.globals, Visible imports defined name := by
  have start : ∀ name ∈ (method "__init__" [] .none [
      .evaluate (.call (.field (.call (.name "super") [] []) "__init__")
        [.call (.name builder.target.name) [] []] [])]).globals, Visible imports defined name := by
    apply visible_method
    case types => simp
    case result => simp
    case inner =>
      intro name member
      have either : name = "super" ∨ name = builder.target.name := by
        simpa [Statement.reads] using member
      rcases either with rfl | rfl
      · exact .inr (.builtin (by decide +kernel))
      · exact .inr (.defined target)
  have finish : ∀ name ∈ (method "build" [] (.name builder.target.name)
      [.result (selfCall "_finish")]).globals, Visible imports defined name := by
    apply visible_method
    case types => simp
    case result =>
      intro name inside
      cases List.mem_singleton.1 inside
      exact .defined target
    case inner =>
      intro name member
      cases List.mem_singleton.1 member
      exact .inl List.mem_cons_self
  intro name member
  simp only [ClassDefinition.globals, builderClass, List.flatMap_append, List.flatMap_cons,
    List.flatMap_nil, List.append_nil, List.flatMap_map, List.mem_append, List.mem_flatMap,
    Expr.reads_subscript, Expr.reads_name, List.mem_singleton] at member
  rcases member with (rfl | rfl) | (inSlots | inStart | ⟨setter, inSetters, inside⟩) | inFinish
  · exact .imported (asked _ (.left (.from_ (by decide) (by decide))))
  · exact .defined target
  · cases inSlots
  · exact start name inStart
  · exact visible_setterMethod built (types setter inSetters) name inside
  · exact finish name inFinish

/-! ## Functions -/

variable {operation : Operation} {names : Names} {types : OperationTypes}

/-- Where a function is defined, it reads what its inputs are annotated with and the type of its
result. -/
theorem mem_headReads_endpointFunction {plan : OperationPlan} {keywords : List (String × Expr)}
    {isAsync : Bool} {name : String}
    (member : name ∈ (endpointFunction plan keywords isAsync).headReads) :
    (∃ input ∈ plan.signature.inputs, name ∈ (inputTypeExpr input).annotated) ∨
      ∃ type ∈ plan.returnType, name ∈ type.expr.annotated := by
  have noDefaults : plan.signature.keywordOnly.flatMap (fun _ => Expr.none.reads) = [] :=
    List.flatMap_eq_nil_iff.2 fun _ _ => rfl
  simp only [Function.headReads, endpointFunction, functionArguments, Arguments.annotations,
    List.flatMap_nil, List.nil_append, List.flatMap_map, noDefaults, List.filterMap_map,
    Function.comp_def, inputArgument, List.filterMap_eq_map', List.flatMap_append,
    Option.toList_some, List.flatMap_singleton, List.mem_append, List.mem_flatMap] at member
  rcases member with (⟨input, inPositional, inside⟩ | ⟨input, inKeywordOnly, inside⟩) | inResult
  · exact .inl ⟨input, (List.mem_filter.1 inPositional).1, inside⟩
  · exact .inl ⟨input, (List.mem_filter.1 inKeywordOnly).1, inside⟩
  · cases found : plan.returnType with
    | none =>
        rw [found] at inResult
        cases inResult
    | some type =>
        rw [found] at inResult
        exact .inr ⟨type, rfl, inResult⟩

/-- The annotation of an input is the class of the connection settings, that of the options, or
the type of a field, which may be widened. -/
theorem input_cases {input : Input}
    (member : input ∈ (OperationPlan.assemble operation names types).signature.inputs) :
    input.type = .named "Configuration" ∨
      (∃ options, optionsOf operation names types = some options ∧
        input.type = .named options.name) ∨
      ∃ field ∈ fieldsOf names.members operation.parameters types.parameters,
        input.type = .mapped field.type ∨ input.type = .mapped field.type.optional := by
  cases found : optionsOf operation names types with
  | none =>
      simp only [OperationPlan.assemble, found, Option.elim_none, Signature.flat,
        List.cons_append, List.mem_cons, List.mem_append, List.mem_map, List.mem_filter] at member
      rcases member with rfl | ⟨field, ⟨inFields, -⟩, rfl⟩ | ⟨field, ⟨inFields, -⟩, rfl⟩
      · exact .inl rfl
      · exact .inr (.inr ⟨field, inFields, .inl rfl⟩)
      · exact .inr (.inr ⟨field, inFields, .inr rfl⟩)
  | some options =>
      simp only [OperationPlan.assemble, found, Option.elim_some, Signature.ofOptions,
        List.mem_cons, List.not_mem_nil, or_false] at member
      rcases member with rfl | rfl
      · exact .inl rfl
      · exact .inr (.inl ⟨options, rfl, rfl⟩)

theorem mem_types_of_mem_answerTypes {plan : OperationPlan} {type : Mapped}
    (member : type ∈ answerTypes plan) : type ∈ plan.types := by
  simp only [OperationPlan.types, List.append_assoc]
  exact List.mem_append_right _ member

/-- A function has the names of its parameters and of its arguments among its locals. -/
theorem HoldsParameters.mem_locals {plan : OperationPlan} {function : Function}
    (holds : HoldsParameters plan function) :
    "configuration" ∈ function.locals ∧
      (plan.usesOptions = true → "params" ∈ function.locals) ∧
      ∀ binding ∈ plan.bindings, binding.name ∈ function.locals := by
  simp only [Function.locals, List.mem_append]
  cases uses : plan.usesOptions with
  | true =>
      obtain ⟨arguments, bound⟩ := holds.gathered uses
      rw [arguments, bound]
      refine ⟨.inl (by decide), fun _ => .inl (by decide), fun binding member => .inr ?_⟩
      exact List.mem_map_of_mem member
  | false =>
      obtain ⟨arguments, -⟩ := holds.listed uses
      refine ⟨.inl ?_, fun uses => absurd uses (by decide), fun binding member => .inl ?_⟩
      · exact arguments.mem_iff.2 List.mem_cons_self
      · exact arguments.mem_iff.2 (List.mem_cons_of_mem _ (List.mem_map_of_mem member))

/-- Every name that the body of a function reads is a local or is imported. -/
theorem BodyRead.mem_locals_or_visible {plan : OperationPlan} {function : Function}
    {isAsync : Bool} {name : String} (read : BodyRead plan isAsync name)
    (holds : HoldsParameters plan function)
    (asked : imports.Includes (endpointImports modelsModule plan))
    (types : ∀ type ∈ plan.types, Readable imports defined type) :
    name ∈ function.locals ∨ Visible imports defined name := by
  obtain ⟨configuration, options, parameters⟩ := holds.mem_locals
  have relative : runtimeModule ≠ "builtins" := by decide
  cases read with
  | parameter inBindings => exact .inl (parameters _ inBindings)
  | configuration => exact .inl configuration
  | options uses => exact .inl (options uses)
  | presence inBindings checks =>
      have any : plan.bindings.any (·.checksPresence) = true :=
        List.any_eq_true.2 ⟨_, inBindings, checks⟩
      have provided : (endpointImports modelsModule plan).Provides "require" := by
        simp only [endpointImports, any]
        exact .left (.left (.right (.from_ (by decide) relative)))
      exact .inr (.imported (asked _ provided))
  | joining inBindings joins =>
      have any : plan.bindings.any joinsItems = true :=
        List.any_eq_true.2 ⟨_, inBindings, joins⟩
      have provided : (endpointImports modelsModule plan).Provides "format_collection" := by
        simp only [endpointImports, any]
        exact .left (.left (.left (.right (.from_ (by decide) relative))))
      exact .inr (.imported (asked _ provided))
  | helper =>
      have member : requestHelper isAsync ∈ ["Configuration", "request_sync", "request_async"] := by
        cases isAsync <;> decide
      exact .inr (.imported (asked _ (.left (.left (.left (.left (.from_ member relative)))))))
  | type isType inside =>
      exact .inr (types _ (mem_types_of_mem_answerTypes isType) name
        (Expr.reads_subset_annotated _ inside))

/-- A function of an operation reads visible names only, if its imports are asked for, its
annotations are readable, and the options type of the operation is defined. -/
theorem visible_endpointFunction {plan : OperationPlan} {keywords : List (String × Expr)}
    (assembled : plan = .assemble operation names types)
    (found : requestKeywords plan = .ok keywords)
    (asked : imports.Includes (endpointImports modelsModule plan))
    (shown : ∀ type ∈ plan.types, Readable imports defined type)
    (widened : ∀ type ∈ plan.types, Readable imports defined type.optional)
    (gathered : ∀ options, plan.options = some options → options.name ∈ defined)
    (isAsync : Bool) :
    ∀ name ∈ (endpointFunction plan keywords isAsync).globals, Visible imports defined name := by
  subst assembled
  apply Function.forall_mem_globals
  case head =>
    intro name member
    rcases mem_headReads_endpointFunction member with ⟨input, inInputs, inside⟩ | inResult
    · simp only [inputTypeExpr] at inside
      rcases input_cases inInputs with same | ⟨options, there, same⟩ | ⟨field, inFields, same⟩
      · rw [same] at inside
        cases List.mem_singleton.1 inside
        exact .imported (asked _ (.left (.left (.left (.left (.from_ (by decide) (by decide)))))))
      · rw [same] at inside
        cases List.mem_singleton.1 inside
        exact .defined (gathered options there)
      · have isType := mem_types_of_mem_fieldsOf inFields
        rcases same with same | same <;> rw [same] at inside
        · exact shown _ isType name inside
        · exact widened _ isType name inside
    · obtain ⟨type, isReturn, inside⟩ := inResult
      refine shown type (mem_types_of_mem_answerTypes ?_) name inside
      exact List.mem_append_left _ (Option.mem_toList.2 isReturn)
  case body =>
    intro name member
    exact (bodyRead_of_mem_bodyReads found member).mem_locals_or_visible
      (holdsParameters_assemble operation names types keywords isAsync) asked shown

/-! ## The code of an operation -/

/-- The annotations of a plan are readable wherever the imports of its functions are asked for:
these are the imports of all its types. -/
theorem readable_types {models : Models} {plan : OperationPlan}
    (mapped : mapTypes models operation = .ok types)
    (assembled : plan = .assemble operation names types) (emitted : modelsModule ≠ "builtins")
    (asked : imports.Includes (endpointImports modelsModule plan)) :
    ∀ type ∈ plan.types,
      Readable imports defined type ∧ Readable imports defined type.optional := by
  intro type isType
  have accounted : type.Accounted := by
    rw [assembled] at isType
    exact (closed_accounted models).types mapped names type isType
  have typeAsked : imports.Includes (typeImports modelsModule type) :=
    fun name provided => asked name (.right (.all (List.mem_map_of_mem isType) provided))
  refine ⟨readable_of_includes accounted emitted typeAsked, ?_⟩
  rw [← typeImports_optional] at typeAsked
  exact readable_of_includes ((closed_accounted models).optional type accounted) emitted typeAsked

/-- The classes of a plan read visible names only, if their imports are asked for, the annotations
of the plan are readable, and the classes are defined. -/
theorem visible_of_mem_classesOf {plan : OperationPlan}
    (assembled : plan = .assemble operation names types)
    (asked : ∀ code ∈ OperationCode.classesOf plan, imports.Includes code.imports)
    (readable : ∀ type ∈ plan.types,
      Readable imports defined type ∧ Readable imports defined type.optional)
    (named : ∀ code ∈ OperationCode.classesOf plan, code.definition.name ∈ defined) :
    ∀ code ∈ OperationCode.classesOf plan, ∀ name ∈ code.definition.globals,
      Visible imports defined name := by
  cases found : plan.options with
  | none =>
      intro code member
      simp only [OperationCode.classesOf, found] at member
      cases member
  | some options =>
      have fields : ∀ field ∈ options.fields, field.type ∈ plan.types := by
        subst assembled
        obtain ⟨optionsName, -, rfl⟩ := Option.map_eq_some_iff.1 found
        exact fun field member => mem_types_of_mem_fieldsOf member
      rw [classesOf_of_options assembled found] at asked named ⊢
      simp only [List.mem_cons, List.not_mem_nil, or_false, forall_eq_or_imp, forall_eq]
        at asked named ⊢
      constructor
      · exact visible_optionsClass asked.1
          (fun field member => (readable _ (fields field member)).2) named.2
      · refine visible_builderClass asked.2 (fun setter member => ?_) named.1 named.2
        obtain ⟨field, inFields, rfl⟩ := List.mem_map.1 member
        exact (readable _ (fields field inFields)).1

/-- The code of an operation reads nothing but names that are always there, names that it asks for
and names that it defines. -/
theorem visible_of_mem_items {models : Models} {plan : OperationPlan}
    {keywords : List (String × Expr)} {code : OperationCode}
    (mapped : mapTypes models operation = .ok types)
    (assembled : plan = .assemble operation names types) (emitted : modelsModule ≠ "builtins")
    (found : requestKeywords plan = .ok keywords)
    (written : code = .assemble modelsModule plan keywords) :
    ∀ item ∈ code.items, ∀ name ∈ item.globals,
      Visible code.imports code.definedNames name := by
  have classes : code.classes = OperationCode.classesOf plan := by rw [written]; rfl
  have functionsAsked : code.imports.Includes (endpointImports modelsModule plan) := by
    subst written
    exact fun _ provided => .right provided
  have classesAsked : ∀ piece ∈ OperationCode.classesOf plan,
      code.imports.Includes piece.imports := by
    rw [← classes]
    exact fun piece member _ provided => .left (.all (List.mem_map_of_mem member) provided)
  have named : ∀ piece ∈ OperationCode.classesOf plan,
      piece.definition.name ∈ code.definedNames := by
    rw [← classes, OperationCode.definedNames_eq]
    exact fun piece member => List.mem_append_left _ (List.mem_map_of_mem member)
  -- The classes ask for no model classes; what their fields mention is asked for by the functions.
  have readable : ∀ type ∈ plan.types, Readable code.imports code.definedNames type ∧
      Readable code.imports code.definedNames type.optional :=
    readable_types mapped assembled emitted functionsAsked
  have gathered : ∀ options, plan.options = some options → options.name ∈ code.definedNames := by
    intro options there
    apply named (optionsClass options (.make options))
    rw [classesOf_of_options assembled there]
    exact List.mem_cons_self
  have functions := visible_endpointFunction assembled found functionsAsked
    (fun type isType => (readable type isType).1) (fun type isType => (readable type isType).2)
    gathered
  intro item inItems
  rcases List.mem_append.1 inItems with inClasses | inFunctions
  · obtain ⟨piece, member, rfl⟩ := List.mem_map.1 inClasses
    rw [classes] at member
    exact visible_of_mem_classesOf assembled classesAsked readable named piece member
  · subst written
    rcases List.mem_cons.1 inFunctions with rfl | isAsyncFunction
    · exact functions false
    · cases List.mem_singleton.1 isAsyncFunction
      exact functions true

/-! ## The endpoints module -/

/-- The endpoints module reads what the code of its operations reads. -/
theorem globals_endpointsModule (codes : List OperationCode) :
    (endpointsModule codes).globals =
      codes.flatMap fun code => code.items.flatMap Item.globals := by
  have importsNothing (statements : List Import) :
      (statements.map fun imports => Item.statement (.importFrom imports)).flatMap
        Item.globals = [] := by
    simp [List.flatMap_eq_nil_iff, Item.globals, Statement.reads]
  have exportsNothing (names : List String) : (Item.statement (exports names)).globals = [] := by
    simp [exports, Item.globals, Statement.reads, List.flatMap_eq_nil_iff]
  simp only [Module.globals, endpointsModule]
  rw [List.flatMap_append, List.flatMap_append, importsNothing, List.flatMap_singleton,
    exportsNothing, List.flatMap_assoc]
  rfl

/-- Every name that the endpoints module reads is always there, imported by it or defined in
it. -/
theorem scoped_endpointsModule {setting : Setting} {operations : List Operation}
    {coverage : Coverage} (emitted : modelsModule ≠ "builtins")
    (covered : cover setting modelsModule operations = .ok coverage) :
    (endpointsModule coverage.codes).Scoped := by
  have stated : (Imports.all (coverage.codes.map OperationCode.imports)).statements ⊆
      (endpointsModule coverage.codes).imports := by
    rw [imports_endpointsModule]
    exact List.Subset.refl _
  apply Module.scoped_of_visible stated
  intro name member
  rw [globals_endpointsModule] at member
  obtain ⟨code, inCodes, inside⟩ := List.mem_flatMap.1 member
  obtain ⟨item, inItems, isRead⟩ := List.mem_flatMap.1 inside
  obtain ⟨operation, -, names, types, keywords, -, mapped, found, written⟩ :=
    exists_assembled_of_mem_codes covered inCodes
  have visible := visible_of_mem_items mapped rfl emitted found written item inItems name isRead
  refine visible.mono (fun _ provided => .all (List.mem_map_of_mem inCodes) provided) ?_
  rw [definedNames_endpointsModule]
  exact fun _ isDefined => List.mem_flatMap_of_mem inCodes isDefined

end Bindery.Client

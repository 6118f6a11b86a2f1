import Bindery.Proofs.Resolution

/-!
# The parts of a plan line up

The names of an operation's members, the fields of its options type, the setters of its builder
and the locals of its functions are separate lists.  All of them have one entry for each parameter,
and the entries at one position are about the same parameter: every plan is read off one list of
fields, which is related to the list of parameters position by position.
-/

namespace Bindery.Plan

open Bindery.Api Bindery.Naming Bindery.Steps Bindery.Typing

/-! ## Fields of parameters -/

/-- A field that belongs to a parameter: its name is the parameter's member name, and its type is
what the parameter's type is mapped to. -/
structure Field.BelongsTo (setting : Setting) (parameter : Parameter) (field : Field) : Prop where
  parameter_eq : field.parameter = parameter
  memberName_eq : memberName setting.reserved parameter.name = .ok field.name
  map_eq : setting.models.map parameter.type = .ok field.type

variable {setting : Setting} {operation : Operation} {names : Names} {types : OperationTypes}

theorem forall₂_belongsTo_fieldsOf {parameters : List Parameter} {members : List String}
    {types : List Mapped}
    (named : List.Forall₂
      (fun parameter member => memberName setting.reserved parameter.name = .ok member)
      parameters members)
    (mapped : List.Forall₂
      (fun parameter type => setting.models.map parameter.type = .ok type) parameters types) :
    List.Forall₂ (Field.BelongsTo setting) parameters (fieldsOf members parameters types) := by
  induction named generalizing types with
  | nil => exact .nil
  | cons name _ ih =>
      cases mapped with
      | cons type mapped => exact .cons ⟨rfl, name, type⟩ (ih mapped)

/-- The fields have the names that they are put together from. -/
theorem map_name_fieldsOf {members : List String} {parameters : List Parameter}
    {types : List Mapped} (named : members.length = parameters.length)
    (typed : types.length = parameters.length) :
    (fieldsOf members parameters types).map (·.name) = members := by
  have pairs : members.length ≤ (parameters.zip types).length := by
    rw [List.length_zip]
    omega
  rw [fieldsOf, List.map_map]
  exact List.map_fst_zip pairs

theorem forall₂_map_of_mapTypes {models : Models} (mapped : mapTypes models operation = .ok types) :
    List.Forall₂ (fun parameter type => models.map parameter.type = .ok type)
      operation.parameters types.parameters :=
  (mapTypes_eq_ok_iff.1 mapped).1.imp fun _ _ => mapError_eq_ok_iff.1

/-- The fields of an operation that can be planned belong to its parameters, and their names are
its members. -/
theorem fields_of_resolved {usesOptions : Bool}
    (resolved : names.Resolved setting.reserved operation usesOptions)
    (mapped : mapTypes setting.models operation = .ok types) :
    List.Forall₂ (Field.BelongsTo setting) operation.parameters
        (fieldsOf names.members operation.parameters types.parameters) ∧
      (fieldsOf names.members operation.parameters types.parameters).map (·.name) =
        names.members := by
  have named := forall₂_memberName resolved.members
  refine ⟨forall₂_belongsTo_fieldsOf named (forall₂_map_of_mapTypes mapped), ?_⟩
  exact map_name_fieldsOf resolved.length_members (length_parameters_of_mapTypes mapped)

/-! ## Flat signatures -/

theorem positional_flat (fields : List Field) :
    (Signature.flat fields).positional =
      configurationInput :: (fields.filter (·.parameter.required)).map (·.requiredInput) := by
  simp [Signature.positional, Signature.flat, configurationInput, Field.requiredInput,
    Field.optionalInput, List.filter_map, Function.comp_def]

theorem keywordOnly_flat (fields : List Field) :
    (Signature.flat fields).keywordOnly =
      (fields.filter (! ·.parameter.required)).map (·.optionalInput) := by
  simp [Signature.keywordOnly, Signature.flat, configurationInput, Field.requiredInput,
    Field.optionalInput, List.filter_map, Function.comp_def]

/-! ## Plans -/

theorem optionsOf_eq_some (operation : Operation) (types : OperationTypes) {name : String}
    (named : names.optionsClass = some name) :
    optionsOf operation names types =
      some ⟨name, operation.name,
        fieldsOf names.members operation.parameters types.parameters⟩ := by
  rw [optionsOf, named]
  rfl

theorem optionsOf_eq_none (operation : Operation) (types : OperationTypes)
    (unnamed : names.optionsClass = none) :
    optionsOf operation names types = none := by
  rw [optionsOf, unnamed]
  rfl

/-- Whether an operation's parameters are gathered is known from the variant and from the
parameters. -/
theorem usesOptions_eq_true_iff :
    setting.usesOptions operation = true ↔
      setting.variant = .options ∧ operation.parameters ≠ [] := by
  simp [Setting.usesOptions, gathers]

theorem usesOptions_assemble
    (resolved : names.Resolved setting.reserved operation (setting.usesOptions operation)) :
    (OperationPlan.assemble operation names types).usesOptions =
      setting.usesOptions operation := by
  simp only [OperationPlan.usesOptions, OperationPlan.assemble, optionsOf]
  rw [Option.isSome_map, resolved.optionsClass]
  cases setting.usesOptions operation <;> rfl

/-- A plan without an options type has one input for each parameter. -/
theorem signature_assemble_of_flat
    (flat : (OperationPlan.assemble operation names types).usesOptions = false) :
    (OperationPlan.assemble operation names types).signature =
      .flat (fieldsOf names.members operation.parameters types.parameters) := by
  have absent := Option.isSome_eq_false_iff.1 flat
  simp only [OperationPlan.assemble, Option.isNone_iff_eq_none] at absent ⊢
  rw [absent]
  rfl

/-- A plan with an options type has one input for all parameters. -/
theorem signature_assemble_of_options {options : Options}
    (found : (OperationPlan.assemble operation names types).options = some options) :
    (OperationPlan.assemble operation names types).signature = .ofOptions options := by
  simp only [OperationPlan.assemble] at found ⊢
  rw [found]
  rfl

/-- The locals of a plan are called like its fields. -/
theorem map_name_bindings_assemble (operation : Operation) (names : Names)
    (types : OperationTypes) :
    (OperationPlan.assemble operation names types).bindings.map (·.name) =
      (fieldsOf names.members operation.parameters types.parameters).map (·.name) := by
  simp [OperationPlan.assemble, Field.binding, Function.comp_def]

/-- The locals of an operation that can be planned are called like its members. -/
theorem bindings_assemble {usesOptions : Bool}
    (resolved : names.Resolved setting.reserved operation usesOptions)
    (mapped : mapTypes setting.models operation = .ok types) :
    (OperationPlan.assemble operation names types).bindings.map (·.name) = names.members :=
  (map_name_bindings_assemble operation names types).trans (fields_of_resolved resolved mapped).2

/-! ## Positions -/

/-- A plan whose function takes the parameters as an options value.  Everything that it has for
the parameter at a position is made from one field that belongs to this parameter. -/
structure OperationPlan.Gathers (setting : Setting) (operation : Operation) (plan : OperationPlan)
    (options : Options) (builder : Builder) : Prop where
  options_eq : plan.options = some options
  builder_eq : plan.builder = some builder
  target_eq : builder.target = options
  optionsClass_eq : plan.names.optionsClass = some options.name
  builderClass_eq : plan.names.builderClass = some builder.name
  inputs_eq : plan.signature.inputs =
    [⟨"configuration", .configuration, .named "Configuration", false⟩,
      ⟨"params", .options, .named options.name, false⟩]
  length_members : plan.names.members.length = operation.parameters.length
  length_fields : options.fields.length = operation.parameters.length
  length_setters : builder.setters.length = operation.parameters.length
  length_bindings : plan.bindings.length = operation.parameters.length
  position : ∀ (index : Nat) (parameter : Parameter),
    operation.parameters[index]? = some parameter →
    ∃ field : Field, field.BelongsTo setting parameter ∧
      plan.names.members[index]? = some field.name ∧
      options.fields[index]? = some field ∧
      builder.setters[index]? = some (Setter.mk field field.type.isText) ∧
      plan.bindings[index]? = some (Binding.mk field.name field.parameter field.type .options)
  checksPresence : ∀ binding ∈ plan.bindings, binding.checksPresence = binding.parameter.required

/-- A plan whose function takes the parameters one by one. -/
structure OperationPlan.Lists (setting : Setting) (operation : Operation) (plan : OperationPlan) :
    Prop where
  options_eq : plan.options = none
  builder_eq : plan.builder = none
  optionsClass_eq : plan.names.optionsClass = none
  builderClass_eq : plan.names.builderClass = none
  baseline_eq : ∃ types : List Mapped,
    List.Forall₂ (fun parameter type => setting.models.map parameter.type = .ok type)
      operation.parameters types ∧
    Signature.baseline operation plan.names types = .ok plan.signature
  checksPresence : ∀ binding ∈ plan.bindings, binding.checksPresence = false

theorem gathers_assemble {optionsName : String}
    (resolved : names.Resolved setting.reserved operation true)
    (mapped : mapTypes setting.models operation = .ok types)
    (named : names.optionsClass = some optionsName) :
    (OperationPlan.assemble operation names types).Gathers setting operation
      ⟨optionsName, operation.name,
        fieldsOf names.members operation.parameters types.parameters⟩
      (.make ⟨optionsName, operation.name,
        fieldsOf names.members operation.parameters types.parameters⟩) := by
  obtain ⟨belong, members⟩ := fields_of_resolved resolved mapped
  have lengths := belong.length_eq.symm
  have builderClass : names.builderClass = names.optionsClass.map Naming.builderClass := by
    rw [resolved.heading]
    rfl
  have options := optionsOf_eq_some operation types named
  constructor
  case options_eq => exact options
  case builder_eq => exact congrArg (Option.map Builder.make) options
  case target_eq => rfl
  case optionsClass_eq => exact named
  case builderClass_eq => exact builderClass.trans (congrArg (Option.map Naming.builderClass) named)
  case inputs_eq =>
    rw [signature_assemble_of_options options]
    rfl
  case length_members => exact resolved.length_members
  case length_fields => exact lengths
  case length_setters => simpa [Builder.make] using lengths
  case length_bindings => simpa [OperationPlan.assemble] using lengths
  case position =>
    intro index parameter found
    obtain ⟨field, here, belongs⟩ := getElem?_of_forall₂ belong found
    refine ⟨field, belongs, ?_, here, ?_, ?_⟩
    · change names.members[index]? = _
      rw [← members, List.getElem?_map, here]
      rfl
    · simp only [Builder.make]
      rw [List.getElem?_map, here]
      rfl
    · simp only [OperationPlan.assemble]
      rw [options, List.getElem?_map, here]
      rfl
  case checksPresence =>
    intro binding member
    simp only [OperationPlan.assemble] at member
    rw [options] at member
    obtain ⟨field, -, rfl⟩ := List.mem_map.1 member
    exact Bool.true_and _

theorem lists_assemble (resolved : names.Resolved setting.reserved operation false)
    (mapped : mapTypes setting.models operation = .ok types) :
    (OperationPlan.assemble operation names types).Lists setting operation := by
  have named : names.optionsClass = none := resolved.optionsClass
  have options := optionsOf_eq_none operation types named
  constructor
  case options_eq => exact options
  case builder_eq => exact congrArg (Option.map Builder.make) options
  case optionsClass_eq => exact named
  case builderClass_eq =>
    change names.builderClass = none
    rw [resolved.heading]
    rfl
  case baseline_eq =>
    refine ⟨types.parameters, forall₂_map_of_mapTypes mapped, ?_⟩
    simp only [Signature.baseline, OperationPlan.assemble]
    rw [alignFields_eq_ok resolved.length_members (length_parameters_of_mapTypes mapped), options]
    rfl
  case checksPresence =>
    intro binding member
    simp only [OperationPlan.assemble] at member
    rw [options] at member
    obtain ⟨field, -, rfl⟩ := List.mem_map.1 member
    exact Bool.false_and _

/-- An operation's parameters are gathered if the variant asks for it and there are any.  Then its
names, fields, setters and locals line up with its parameters; else it has no options type and its
signature lists the parameters. -/
theorem plan_lines_up {plan : OperationPlan} (planned : Plan.plan setting operation = .ok plan) :
    (plan.usesOptions = true ↔ setting.variant = .options ∧ operation.parameters ≠ []) ∧
    (plan.usesOptions = true → ∃ options builder, plan.Gathers setting operation options builder) ∧
    (plan.usesOptions = false → plan.Lists setting operation) := by
  obtain ⟨names, types, resolved, mapped, rfl⟩ := plan_eq_ok_iff.1 planned
  rw [usesOptions_assemble resolved]
  refine ⟨usesOptions_eq_true_iff, ?_, ?_⟩
  · intro uses
    rw [uses] at resolved
    exact ⟨_, _, gathers_assemble resolved mapped resolved.optionsClass⟩
  · intro flat
    rw [flat] at resolved
    exact lists_assemble resolved mapped

/-- An operation with a parameter for each way of escaping its name. -/
def searchPets : Operation where
  name := "search-pets"
  path := "/pets/{class}"
  parameters := [
    { name := "class", location := .path, required := true, type := { type := some "string" } },
    { name := "X-Trace", location := .header, type := { type := some "string" } },
    { name := "_id", location := .query, required := true, type := { ref := some "Pet" } },
    { name := "copy", location := .query, type := { type := some "boolean" } }]

/-- The parameters of the operation are gathered for one variant and listed for the other. -/
theorem searchPets_lines_up :
    ∃ gathered listed options builder,
      plan ⟨.options, .ofSchemas ["Pet"], []⟩ searchPets = .ok gathered ∧
      plan ⟨.flat, .ofSchemas ["Pet"], []⟩ searchPets = .ok listed ∧
      gathered.names.members = ["class_", "X_Trace", "field_id", "copy_"] ∧
      gathered.Gathers ⟨.options, .ofSchemas ["Pet"], []⟩ searchPets options builder ∧
      listed.Lists ⟨.flat, .ofSchemas ["Pet"], []⟩ searchPets := by
  have gathers : (plan ⟨.options, .ofSchemas ["Pet"], []⟩ searchPets).toOption.map
      (fun plan => (plan.usesOptions, plan.names.members)) =
        some (true, ["class_", "X_Trace", "field_id", "copy_"]) := by
    decide +kernel
  have lists : (plan ⟨.flat, .ofSchemas ["Pet"], []⟩ searchPets).toOption.map
      (·.usesOptions) = some false := by
    decide +kernel
  obtain ⟨gathered, planned, same⟩ := toOption_map_eq_some_iff.1 gathers
  obtain ⟨uses, members⟩ := Prod.mk.inj same
  obtain ⟨listed, flatPlanned, flat⟩ := toOption_map_eq_some_iff.1 lists
  obtain ⟨options, builder, parts⟩ := (plan_lines_up planned).2.1 uses
  exact ⟨gathered, listed, options, builder, planned, flatPlanned, members, parts,
    (plan_lines_up flatPlanned).2.2 flat⟩

end Bindery.Plan

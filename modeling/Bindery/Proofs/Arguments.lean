import Bindery.Proofs.MemberNames
import Bindery.Proofs.Origins

/-!
# The arguments of a function that lists its parameters

A function that takes parameters one by one has those that are required by position and the others
by keyword.  The parameters come in any order and are put on the two sides twice: when the signature
is planned, and when its inputs are gone through to make arguments and defaults of them.  Neither
loses a parameter or changes the order on a side, the defaults stay beside the arguments that they
belong to, and what the annotations take from the library is imported.
-/

namespace Bindery.Client

open Bindery.Api Bindery.Code Bindery.Naming Bindery.Plan Bindery.Steps Bindery.Typing

/-! ## Inputs one by one -/

/-- The arguments of a function while its inputs are gone through: those passed by keyword and their
defaults are kept apart. -/
structure ArgumentLists where
  positional : List Argument := []
  keywordOnly : List Argument := []
  defaults : List Expr := []
  imports : Imports := {}

namespace ArgumentLists

/-- The lists after one more input. -/
def add (lists : ArgumentLists) (input : Input) : ArgumentLists :=
  let imports := lists.imports ++ inputImports input
  if input.keywordOnly then
    { lists with
      keywordOnly := lists.keywordOnly ++ [inputArgument input]
      defaults := lists.defaults ++ [.none]
      imports := imports }
  else
    { lists with
      positional := lists.positional ++ [inputArgument input]
      imports := imports }

/-- The lists after all inputs of a signature, starting with none. -/
def ofSignature (signature : Signature) : ArgumentLists := signature.inputs.foldl add {}

/-- The lists hold inputs, each on the side where it is passed, and a default for each argument that
is passed by keyword. -/
structure Holds (lists : ArgumentLists) (inputs : List Input) : Prop where
  positional : lists.positional = (inputs.filter (! ·.keywordOnly)).map inputArgument
  keywordOnly : lists.keywordOnly = (inputs.filter (·.keywordOnly)).map inputArgument
  defaults : lists.defaults = lists.keywordOnly.map fun _ => Expr.none
  imports : lists.imports = .all (inputs.map inputImports)

theorem holds_nil : Holds {} [] := ⟨rfl, rfl, rfl, rfl⟩

/-- An input goes to the end of its side. -/
theorem Holds.add {lists : ArgumentLists} {inputs : List Input} (holds : lists.Holds inputs)
    (input : Input) : (lists.add input).Holds (inputs ++ [input]) := by
  obtain ⟨positional, keywordOnly, defaults, imports⟩ := holds
  have asked : lists.imports ++ inputImports input =
      .all ((inputs ++ [input]).map inputImports) := by
    rw [imports, List.map_append, Imports.all, Imports.all, List.flatMap_append]
    simp only [List.map_cons, List.map_nil, List.flatMap_cons, List.flatMap_nil, List.append_nil]
    rfl
  cases passed : input.keywordOnly with
  | true | false =>
      constructor <;> simp [ArgumentLists.add, passed, positional, keywordOnly, defaults, asked]

theorem Holds.foldl {lists : ArgumentLists} {before : List Input} (holds : lists.Holds before)
    (inputs : List Input) : (inputs.foldl ArgumentLists.add lists).Holds (before ++ inputs) := by
  induction inputs generalizing lists before with
  | nil => simpa using holds
  | cons input rest ih => simpa using ih (holds.add input)

theorem holds_ofSignature (signature : Signature) :
    (ofSignature signature).Holds signature.inputs :=
  holds_nil.foldl signature.inputs

/-- Going through the inputs one by one makes the arguments of a function: the two lists of those
passed by keyword and of their defaults are equally long and are paired. -/
theorem functionArguments_eq (signature : Signature) :
    functionArguments signature = ⟨(ofSignature signature).positional,
        (ofSignature signature).keywordOnly.zip (ofSignature signature).defaults⟩ ∧
      (ofSignature signature).defaults.length = (ofSignature signature).keywordOnly.length ∧
      (ofSignature signature).imports = signatureImports signature := by
  obtain ⟨positional, keywordOnly, defaults, imports⟩ := holds_ofSignature signature
  refine ⟨?_, ?_, imports⟩
  · rw [defaults, ← List.map_prod_left_eq_zip, keywordOnly, positional, List.map_map]
    rfl
  · rw [defaults, List.length_map]

end ArgumentLists

/-! ## Parameters as arguments -/

/-- The argument of a parameter: it has the name of its member and is annotated with its mapped
type, which admits the absence of a value if the parameter may be left out. -/
structure ArgumentOf (setting : Setting) (parameter : Parameter) (argument : Argument) : Prop where
  name : memberName setting.reserved parameter.name = .ok argument.name
  type : ∃ mapped, setting.models.map parameter.type = .ok mapped ∧
    argument.type = some (if parameter.required then mapped.expr else mapped.optional.expr)

variable {setting : Setting} {parameter : Parameter} {field : Field}

theorem argumentOf_requiredInput (belongs : field.BelongsTo setting parameter)
    (required : parameter.required = true) :
    ArgumentOf setting parameter (inputArgument field.requiredInput) := by
  refine ⟨belongs.memberName_eq, field.type, belongs.map_eq, ?_⟩
  rw [if_pos required]
  rfl

theorem argumentOf_optionalInput (belongs : field.BelongsTo setting parameter)
    (optional : parameter.required = false) :
    ArgumentOf setting parameter (inputArgument field.optionalInput) := by
  refine ⟨belongs.memberName_eq, field.type, belongs.map_eq, ?_⟩
  rw [if_neg (Bool.not_eq_true _ ▸ optional)]
  rfl

/-- Every argument is annotated as one of the inputs. -/
theorem mem_annotations_functionArguments {signature : Signature} {type : Expr}
    (member : type ∈ (functionArguments signature).annotations) :
    ∃ input ∈ signature.inputs, inputTypeExpr input = type := by
  simp only [Arguments.annotations, functionArguments, List.filterMap_map, Function.comp_def,
    inputArgument, List.filterMap_eq_map', List.mem_append, List.mem_map] at member
  rcases member with ⟨input, inPositional, same⟩ | ⟨input, inKeywordOnly, same⟩
  · exact ⟨input, (List.mem_filter.1 inPositional).1, same⟩
  · exact ⟨input, (List.mem_filter.1 inKeywordOnly).1, same⟩

/-- The arguments of a function that lists the parameters of its operation: after the connection
settings the required parameters, and by keyword those that may be left out, both in the order of
their declaration.  What the arguments import is what the types of the parameters do, and beside
this their annotations need the class of the connection settings and model classes. -/
structure ListsParameters (setting : Setting) (operation : Operation) (plan : OperationPlan)
    (arguments : Arguments) : Prop where
  positional : ∃ required,
    arguments.positional = ⟨"configuration", some (.name "Configuration")⟩ :: required ∧
      List.Forall₂ (ArgumentOf setting) (operation.parameters.filter (·.required)) required
  keywordOnly : List.Forall₂
    (fun parameter argument => ArgumentOf setting parameter argument.1 ∧ argument.2 = .none)
    (operation.parameters.filter (! ·.required)) arguments.keywordOnly
  complete : arguments.names.Perm ("configuration" :: plan.names.members)
  distinct : arguments.names.Nodup
  positionalNames :
    arguments.positional.map (·.name) = plan.signature.positional.map (·.name)
  keywordNames :
    arguments.keywordOnly.map (·.1.name) = plan.signature.keywordOnly.map (·.name)
  built : arguments = ⟨(ArgumentLists.ofSignature plan.signature).positional,
    (ArgumentLists.ofSignature plan.signature).keywordOnly.zip
      (ArgumentLists.ofSignature plan.signature).defaults⟩
  defaults : (ArgumentLists.ofSignature plan.signature).defaults.length =
    (ArgumentLists.ofSignature plan.signature).keywordOnly.length
  imports_eq : (ArgumentLists.ofSignature plan.signature).imports = signatureImports plan.signature
  imports : ∀ module name, (signatureImports plan.signature).Takes module name ↔
    ∃ parameter ∈ operation.parameters, ∃ mapped,
      setting.models.map parameter.type = .ok mapped ∧ mapped.imports.Takes module name
  annotations : ∀ type ∈ arguments.annotations, ∀ name ∈ type.annotated,
    name = "Configuration" ∨ name ∈ annotationBuiltins ∨
      (signatureImports plan.signature).Provides name ∨ name ∈ setting.models.classNames

variable {operation : Operation} {names : Names} {types : OperationTypes}

/-- An argument of a function that lists its parameters is annotated with the class of the
connection settings or with the type of a field, which may be widened. -/
theorem annotation_cases (mapped : mapTypes setting.models operation = .ok types)
    (flat : (OperationPlan.assemble operation names types).usesOptions = false) {type : Expr}
    (member : type ∈
      (functionArguments (OperationPlan.assemble operation names types).signature).annotations) :
    type = .name "Configuration" ∨
      ∃ field ∈ fieldsOf names.members operation.parameters types.parameters, ∃ shown : Mapped,
        type = shown.expr ∧ shown.imports = field.type.imports ∧ shown.Accounted ∧
          shown.Known setting.models := by
  obtain ⟨input, inInputs, rfl⟩ := mem_annotations_functionArguments member
  rcases input_cases inInputs with named | ⟨options, found, -⟩ | ⟨field, inFields, plainOrWidened⟩
  · exact .inl (by rw [inputTypeExpr, named])
  · have gathered : (OperationPlan.assemble operation names types).options = some options := found
    rw [OperationPlan.usesOptions, gathered] at flat
    cases flat
  · have accounted := (closed_accounted setting.models).fields mapped names.members field inFields
    have known := (closed_known setting.models).fields mapped names.members field inFields
    refine .inr ⟨field, inFields, ?_⟩
    rcases plainOrWidened with plain | widened
    · exact ⟨field.type, by rw [inputTypeExpr, plain], rfl, accounted, known⟩
    · exact ⟨field.type.optional, by rw [inputTypeExpr, widened], Mapped.optional_imports _,
        (closed_accounted setting.models).optional _ accounted,
        (closed_known setting.models).optional _ known⟩

theorem listsParameters_assemble (resolved : names.Resolved setting.reserved operation false)
    (mapped : mapTypes setting.models operation = .ok types)
    (flat : (OperationPlan.assemble operation names types).usesOptions = false) :
    ListsParameters setting operation (.assemble operation names types)
      (functionArguments (OperationPlan.assemble operation names types).signature) := by
  obtain ⟨belong, -⟩ := fields_of_resolved resolved mapped
  have signature := signature_assemble_of_flat flat
  have locals := bindings_assemble resolved mapped
  have holds := (holdsParameters_assemble operation names types [] false).listed flat
  have aligned := length_parameters_of_mapTypes mapped
  constructor
  case positional =>
    rw [signature, functionArguments, positional_flat]
    refine ⟨_, rfl, ?_⟩
    rw [List.map_map, List.forall₂_map_right_iff]
    refine (forall₂_filter belong fun parameter field belongs => ?_).imp ?_
    · rw [belongs.parameter_eq]
    · rintro parameter field ⟨belongs, required⟩
      exact argumentOf_requiredInput belongs required
  case keywordOnly =>
    rw [signature, functionArguments, keywordOnly_flat, List.map_map,
      List.forall₂_map_right_iff]
    refine (forall₂_filter belong fun parameter field belongs => ?_).imp ?_
    · rw [belongs.parameter_eq]
    · rintro parameter field ⟨belongs, optional⟩
      exact ⟨argumentOf_optionalInput belongs (by simpa using optional), rfl⟩
  case complete => exact locals ▸ holds.1
  case distinct =>
    exact (namedApart_assemble (fit_of_resolveMembers resolved.members) aligned).arguments
  case positionalNames => simp [functionArguments, inputArgument, Function.comp_def]
  case keywordNames => simp [functionArguments, inputArgument, Function.comp_def]
  case built => exact (ArgumentLists.functionArguments_eq _).1
  case defaults => exact (ArgumentLists.functionArguments_eq _).2.1
  case imports_eq => exact (ArgumentLists.functionArguments_eq _).2.2
  case imports =>
    intro module name
    rw [signature, takes_signatureImports_flat]
    constructor
    · rintro ⟨field, inFields, taken⟩
      obtain ⟨parameter, inParameters, belongs⟩ := exists_mem_of_forall₂ belong inFields
      exact ⟨parameter, inParameters, field.type, belongs.map_eq, taken⟩
    · rintro ⟨parameter, inParameters, type, done, taken⟩
      obtain ⟨field, inFields, belongs⟩ := exists_mem_of_forall₂ belong.flip inParameters
      have same : field.type = type := by simpa [belongs.map_eq] using done
      exact ⟨field, inFields, same ▸ taken⟩
  case annotations =>
    intro type inAnnotations name member
    rcases annotation_cases mapped flat inAnnotations with
      rfl | ⟨field, inFields, shown, rfl, same, accounted, known⟩
    · exact .inl (List.mem_singleton.1 member)
    · rcases accounted name member with isBuiltin | provided | isModel
      · exact .inr (.inl isBuiltin)
      · obtain ⟨module, taken⟩ := Imports.provides_iff_exists_takes.1 provided
        have asked := takes_signatureImports_flat.2 ⟨field, inFields, same ▸ taken⟩
        exact .inr (.inr (.inl ⟨module, signature ▸ asked⟩))
      · exact .inr (.inr (.inr (known.models isModel)))

/-- The functions of an operation that does not gather its parameters take them as arguments: the
required ones by position after the connection settings, the others by keyword with a default, each
side in the order of their declaration. -/
theorem flat_arguments_partition {plan : OperationPlan}
    (planned : Plan.plan setting operation = .ok plan) (flat : plan.usesOptions = false)
    (keywords : List (String × Expr)) (isAsync : Bool) :
    ListsParameters setting operation plan (endpointFunction plan keywords isAsync).arguments := by
  obtain ⟨names, types, resolved, mapped, rfl⟩ := plan_eq_ok_iff.1 planned
  have listed : setting.usesOptions operation = false :=
    (usesOptions_assemble resolved).symm.trans flat
  rw [listed] at resolved
  exact listsParameters_assemble resolved mapped flat

/-- An operation whose parameters are required by turns. -/
def listVisits : Operation where
  name := "listVisits"
  parameters := [
    { name := "limit", location := .query, type := { type := some "integer" } },
    { name := "configuration", location := .query, required := true,
      type := { type := some "string", format := some "date" } },
    { name := "kind", location := .query, type := { enum := some [.text "checkup"] } },
    { name := "pet", location := .body, required := true, type := { ref := some "Pet" } },
    { name := "since", location := .header,
      type := { type := some "string", format := some "date-time", nullable := true } }]

/-- Each side of the arguments keeps its order, and the parameter that is called like the connection
settings gives way to them. -/
theorem listVisits_arguments :
    ∃ plan, Plan.plan ⟨.flat, .ofSchemas ["Pet"], []⟩ listVisits = .ok plan ∧
      plan.usesOptions = false ∧
      (endpointFunction plan [] true).arguments.positional.map (·.name) =
        ["configuration", "configuration_", "pet"] ∧
      (endpointFunction plan [] true).arguments.keywordOnly.map (·.1.name) =
        ["limit", "kind", "since"] ∧
      ListsParameters ⟨.flat, .ofSchemas ["Pet"], []⟩ listVisits plan
        (endpointFunction plan [] true).arguments := by
  have shown : (Plan.plan ⟨.flat, .ofSchemas ["Pet"], []⟩ listVisits).toOption.map
      (fun plan => (plan.usesOptions,
        (endpointFunction plan [] true).arguments.positional.map (·.name),
        (endpointFunction plan [] true).arguments.keywordOnly.map (·.1.name))) =
      some (false, ["configuration", "configuration_", "pet"], ["limit", "kind", "since"]) := by
    decide +kernel
  obtain ⟨plan, planned, same⟩ := toOption_map_eq_some_iff.1 shown
  simp only [Prod.mk.injEq] at same
  exact ⟨plan, planned, same.1, same.2.1, same.2.2,
    flat_arguments_partition planned same.1 [] true⟩

end Bindery.Client

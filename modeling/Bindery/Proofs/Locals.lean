import Bindery.Proofs.Alignment
import Bindery.Proofs.Definitions
import Bindery.Proofs.Joining
import Bindery.Proofs.Reads

/-!
# Locals that hide nothing

The functions of an operation bind a local for each parameter, and beside these they read the
arguments, the helpers of the runtime module and what the types of the result and of the error are
made of.  Parameters have arbitrary names, and a member that would hide another name gives way by an
underscore.  It does so only once: that the name with the underscore is free is never tested, and
follows from no reserved name ending in one.
-/

namespace Bindery.Naming

open Bindery.Api Bindery.Code Bindery.Plan Bindery.Typing

/-! ## Names that end in an underscore -/

/-- A name that does not end in an underscore. -/
def Unmarked (name : String) : Prop := name.toList.getLast? ≠ some '_'

instance : DecidablePred Unmarked := fun _ => inferInstanceAs (Decidable (_ ≠ _))

theorem not_unmarked_append (name : String) : ¬ Unmarked (name ++ "_") := by
  intro unmarked
  apply unmarked
  rw [String.toList_append]
  exact List.getLast?_concat

theorem getLast?_guardDigit (text : List Char) :
    (guardDigit text).getLast? = text.getLast? := by
  cases text with
  | nil => rfl
  | cons c rest =>
      simp only [guardDigit]
      split
      · exact List.getLast?_cons_cons
      · rfl

/-- The name of a class ends in a letter or digit. -/
theorem unmarked_className (name : String) : Unmarked (className name) := by
  simp only [className]
  split
  · decide
  · next text =>
      intro marked
      rw [String.toList_ofList, getLast?_guardDigit] at marked
      have member := List.mem_of_getLast? marked
      rw [← content_flatMap_capitalize] at member
      exact absurd (List.mem_filter.1 member).2 (by decide)

/-- No name that parameters keep clear of ends in an underscore. -/
theorem unmarked_of_mem_parameterReserved {document : Document} {name : String}
    (member : name ∈ parameterReserved (endpointReserved (.ofDocument document))) :
    Unmarked name := by
  have fixed : ∀ known ∈ runtimeNames ++ annotationImports ++ modelBaseNames ++ callNames ++
      annotationBuiltins, Unmarked known := by
    decide +kernel
  simp only [parameterReserved, endpointReserved, List.mem_append, or_assoc] at member
  rcases member with isClass | isFixed
  · obtain ⟨pair, inClasses, rfl⟩ := List.mem_map.1 isClass
    obtain ⟨schema, -, rfl⟩ := List.mem_map.1 inClasses
    exact unmarked_className schema
  · apply fixed
    simp only [List.mem_append]
    tauto

/-- A member name gives way to every name that is taken and does not end in an underscore. -/
theorem member_ne {reserved : List String} {name result taken : String}
    (derived : member name reserved = .ok result)
    (isTaken : taken ∈ modelAttributes ∨ taken ∈ reserved) (unmarked : Unmarked taken) :
    result ≠ taken := by
  obtain ⟨text, -, rfl⟩ := Steps.map_eq_ok_iff.1 derived
  unfold guardMember
  extract_lets visible
  split
  · intro same
    exact not_unmarked_append visible (same ▸ unmarked)
  · next free =>
      intro same
      exact free (same ▸ isTaken)

theorem memberName_ne {reserved : List String} {parameter member taken : String}
    (derived : memberName reserved parameter = .ok member)
    (isTaken : taken ∈ parameterReserved reserved) (unmarked : Unmarked taken) :
    member ≠ taken :=
  member_ne derived (.inr isTaken) unmarked

theorem not_mem_of_memberName {document : Document} {parameter member : String}
    (derived : memberName (endpointReserved (.ofDocument document)) parameter = .ok member) :
    member ∉ parameterReserved (endpointReserved (.ofDocument document)) := by
  intro isTaken
  exact memberName_ne derived isTaken (unmarked_of_mem_parameterReserved isTaken) rfl

end Bindery.Naming

namespace Bindery.Client

open Bindery.Api Bindery.Code Bindery.Naming Bindery.Plan Bindery.Steps Bindery.Typing

/-! ## What a request reads -/

/-- The value that is sent for a parameter is its local, which a helper may join. -/
theorem wireValue_cases (binding : Binding) :
    wireValue binding = .name binding.name ∨
      ∃ format, wireValue binding =
        .call (.name "format_collection") [.name binding.name, .text format] [] := by
  cases wireValue_eq_or_joined binding with
  | inl plain => exact .inl plain
  | inr joined =>
      obtain ⟨format, joined⟩ := joined
      exact .inr ⟨format.label, joined⟩

theorem name_mem_reads_wireValue (binding : Binding) :
    binding.name ∈ (wireValue binding).reads := by
  rcases wireValue_cases binding with plain | ⟨format, joined⟩
  · rw [plain]
    exact List.mem_singleton_self _
  · rw [joined]
    simp

theorem mem_reads_wireValue {binding : Binding} {name : String}
    (member : name ∈ (wireValue binding).reads) :
    name = binding.name ∨ (name = "format_collection" ∧ joinsItems binding = true) := by
  simp only [joinsItems]
  rcases wireValue_cases binding with plain | ⟨format, joined⟩
  · rw [plain] at member
    exact .inl (List.mem_singleton.1 member)
  · rw [joined] at member ⊢
    simpa [or_comm] using member

/-- A name that is read for the values of some parameters. -/
def ReadFor (bindings : List Binding) (name : String) : Prop :=
  ∃ binding ∈ bindings, name ∈ (wireValue binding).reads

theorem readFor_dictionary? {location : Location} {bindings : List Binding} {value : Expr}
    (found : dictionary? location bindings = some value) {name : String}
    (member : name ∈ value.reads) : ReadFor bindings name := by
  simp only [dictionary?] at found
  split at found
  · cases found
  · next several there =>
      cases found
      rw [Expr.reads_dict] at member
      obtain ⟨entry, inEntries, inside⟩ := List.mem_flatMap.1 member
      obtain ⟨binding, located, rfl⟩ := List.mem_map.1 inEntries
      exact ⟨binding, (List.mem_filter.1 located).1, inside⟩

theorem readFor_body? {bindings : List Binding} {value : Expr}
    (found : body? bindings = .ok (some value)) {name : String} (member : name ∈ value.reads) :
    ReadFor bindings name := by
  simp only [body?] at found
  split at found
  · cases found
  · next binding there =>
      cases found
      cases List.mem_singleton.1 member
      have inside : binding ∈ located .body bindings := by
        rw [there]
        exact List.mem_singleton_self _
      exact ⟨binding, (List.mem_filter.1 inside).1, name_mem_reads_wireValue binding⟩
  · cases found

/-- The parts of a path read what the values that are filled in read. -/
theorem exists_value_of_mem_fillParts {value? : String → Option Expr} {pending : List Char}
    {parts : List PathPart} {part : TemplatePart} {name : String}
    (inside : part ∈ fillParts value? pending parts) (member : name ∈ Expr.readsOfPart part) :
    ∃ key value, value? key = some value ∧ name ∈ value.reads := by
  have literal {pending : List Char} (inside : part ∈ literalPart pending) : False := by
    simp only [literalPart] at inside
    split at inside
    · cases inside
    · cases List.mem_singleton.1 inside
      cases member
  -- The text before a place that is filled in is kept back until then, and reads nothing.
  induction parts generalizing pending with
  | nil => exact (literal inside).elim
  | cons first rest ih =>
      cases first with
      | text chars => exact ih inside
      | placeholder key =>
          simp only [fillParts] at inside
          split at inside
          · next value found =>
              rcases List.mem_append.1 inside with before | here
              · exact (literal before).elim
              · rcases List.mem_cons.1 here with rfl | later
                · exact ⟨_, value, found, member⟩
                · exact ih later
          · exact ih inside

theorem readFor_pathExpr {path : String} {bindings : List Binding} {name : String}
    (member : name ∈ (pathExpr path bindings).reads) : ReadFor bindings name := by
  simp only [pathExpr] at member
  split at member
  · rw [Expr.reads_template] at member
    obtain ⟨part, inParts, inside⟩ := List.mem_flatMap.1 member
    obtain ⟨key, value, found, inValue⟩ := exists_value_of_mem_fillParts inParts inside
    obtain ⟨binding, there, rfl⟩ := Option.map_eq_some_iff.1 found
    have located := List.mem_reverse.1 (List.mem_of_find?_eq_some there)
    exact ⟨binding, (List.mem_filter.1 located).1, inValue⟩
  · cases member

theorem mem_keyword? {key : String} {value : Option Expr} {entry : String × Expr} :
    entry ∈ keyword? key value ↔ ∃ found, value = some found ∧ entry = (key, found) := by
  cases value <;> simp [keyword?]

/-- The types of the result and of the error of an operation. -/
def answerTypes (plan : OperationPlan) : List Mapped :=
  plan.returnType.toList ++ plan.errorType.toList

/-- The keyword arguments of a request read values of parameters and the types of the answer. -/
theorem mem_reads_requestKeywords {plan : OperationPlan} {keywords : List (String × Expr)}
    (found : requestKeywords plan = .ok keywords) {entry : String × Expr}
    (inside : entry ∈ keywords) {name : String} (member : name ∈ entry.2.reads) :
    ReadFor plan.bindings name ∨ ∃ type ∈ answerTypes plan, name ∈ type.expr.reads := by
  obtain ⟨body, bodyFound, rfl⟩ := map_eq_ok_iff.1 found
  simp only [List.mem_append, mem_keyword?, or_assoc] at inside
  rcases inside with ⟨value, there, rfl⟩ | ⟨value, there, rfl⟩ | ⟨value, there, rfl⟩ |
    ⟨value, rfl, rfl⟩ | ⟨value, there, rfl⟩ | ⟨value, there, rfl⟩
  · exact .inl (readFor_dictionary? there member)
  · exact .inl (readFor_dictionary? there member)
  · exact .inl (readFor_dictionary? there member)
  · exact .inl (readFor_body? bodyFound member)
  · obtain ⟨type, isReturn, rfl⟩ := Option.map_eq_some_iff.1 there
    exact .inr ⟨type, List.mem_append_left _ (Option.mem_toList.2 isReturn), member⟩
  · obtain ⟨type, isError, rfl⟩ := Option.map_eq_some_iff.1 there
    exact .inr ⟨type, List.mem_append_right _ (Option.mem_toList.2 isError), member⟩

/-! ## What a function reads -/

/-- The names that the body of an operation's function reads, by what they are read for. -/
inductive BodyRead (plan : OperationPlan) (isAsync : Bool) : String → Prop where
  | parameter {binding : Binding} :
      binding ∈ plan.bindings → BodyRead plan isAsync binding.name
  | configuration : BodyRead plan isAsync "configuration"
  | options : plan.usesOptions = true → BodyRead plan isAsync "params"
  | presence {binding : Binding} :
      binding ∈ plan.bindings → binding.checksPresence = true → BodyRead plan isAsync "require"
  | joining {binding : Binding} :
      binding ∈ plan.bindings → joinsItems binding = true →
      BodyRead plan isAsync "format_collection"
  | helper : BodyRead plan isAsync (requestHelper isAsync)
  | type {type : Mapped} {name : String} :
      type ∈ answerTypes plan → name ∈ type.expr.reads → BodyRead plan isAsync name

variable {plan : OperationPlan} {keywords : List (String × Expr)} {isAsync : Bool} {name : String}

theorem BodyRead.ofReadFor (read : ReadFor plan.bindings name) : BodyRead plan isAsync name := by
  obtain ⟨binding, inBindings, member⟩ := read
  rcases mem_reads_wireValue member with rfl | ⟨rfl, joins⟩
  · exact .parameter inBindings
  · exact .joining inBindings joins

theorem bodyRead_of_mem_reads_bindStatement {binding : Binding} (uses : plan.usesOptions = true)
    (inBindings : binding ∈ plan.bindings) {operation : String}
    (member : name ∈ (bindStatement operation binding).reads) : BodyRead plan isAsync name := by
  simp only [bindStatement, Statement.reads] at member
  split at member
  · next checks =>
      simp only [Expr.reads_call, Expr.reads_name, Expr.reads_field, Expr.reads_text,
        List.flatMap_cons, List.flatMap_nil, List.append_nil, List.mem_append,
        List.mem_singleton] at member
      rcases member with rfl | rfl
      · exact .presence inBindings checks
      · exact .options uses
  · cases List.mem_singleton.1 member
    exact .options uses

theorem bodyRead_of_mem_reads_requestExpr (found : requestKeywords plan = .ok keywords)
    (member : name ∈ (requestExpr plan keywords isAsync).reads) : BodyRead plan isAsync name := by
  have called : name ∈ (Expr.call (.name (requestHelper isAsync))
      [.name configurationArgument, .text (Text.lower plan.operation.method),
        pathExpr plan.operation.path plan.bindings] keywords).reads := by
    cases isAsync <;> exact member
  simp only [Expr.reads_call, Expr.reads_name, Expr.reads_text, List.flatMap_cons,
    List.flatMap_nil, List.append_nil, List.nil_append, List.mem_append, List.mem_singleton,
    List.mem_flatMap] at called
  rcases called with (rfl | rfl | inPath) | ⟨entry, inKeywords, inside⟩
  · exact .helper
  · exact .configuration
  · exact .ofReadFor (readFor_pathExpr inPath)
  · rcases mem_reads_requestKeywords found inKeywords inside with read | ⟨type, isType, inside⟩
    · exact .ofReadFor read
    · exact .type isType inside

/-- Every name that the body of a function reads is read for one of these. -/
theorem bodyRead_of_mem_bodyReads (found : requestKeywords plan = .ok keywords)
    (member : name ∈ (endpointFunction plan keywords isAsync).bodyReads) :
    BodyRead plan isAsync name := by
  simp only [Function.bodyReads, endpointFunction, List.flatMap_append, List.flatMap_cons,
    List.flatMap_nil, List.append_nil, List.mem_append] at member
  rcases member with inBindings | inResult
  · simp only [bindStatements] at inBindings
    split at inBindings
    · next uses =>
        obtain ⟨statement, inStatements, inside⟩ := List.mem_flatMap.1 inBindings
        obtain ⟨binding, there, rfl⟩ := List.mem_map.1 inStatements
        exact bodyRead_of_mem_reads_bindStatement uses there inside
    · cases inBindings
  · exact bodyRead_of_mem_reads_requestExpr found inResult

/-! ## What a function binds -/

/-- Where a function has its parameters: in locals that it binds if they are gathered, and in its
arguments if they are listed. -/
structure HoldsParameters (plan : OperationPlan) (function : Function) : Prop where
  gathered : plan.usesOptions = true →
    function.arguments.names = ["configuration", "params"] ∧
      function.bound = plan.bindings.map (·.name)
  listed : plan.usesOptions = false →
    function.arguments.names.Perm ("configuration" :: plan.bindings.map (·.name)) ∧
      function.bound = []

theorem bound_endpointFunction (plan : OperationPlan) (keywords : List (String × Expr))
    (isAsync : Bool) :
    (endpointFunction plan keywords isAsync).bound =
      if plan.usesOptions then plan.bindings.map (·.name) else [] := by
  simp only [Function.bound, endpointFunction, bindStatements]
  rw [List.flatMap_append]
  split
  · rw [List.flatMap_map]
    exact (List.append_nil _).trans List.map_eq_flatMap.symm
  · rfl

/-- The arguments of a function are the inputs of its signature, those by keyword last. -/
theorem names_functionArguments_perm (signature : Signature) :
    (functionArguments signature).names.Perm signature.names := by
  have apart : (signature.keywordOnly ++ signature.positional).Perm signature.inputs :=
    List.filter_append_perm Input.keywordOnly signature.inputs
  have names := (List.perm_append_comm.trans apart).map (·.name)
  simpa [functionArguments, Arguments.names, inputArgument, Function.comp_def, Signature.names]
    using names

theorem names_flat_perm (fields : List Field) :
    (Signature.flat fields).names.Perm ("configuration" :: fields.map (·.name)) := by
  have apart := (List.filter_append_perm (·.parameter.required) fields).map (·.name)
  rw [List.map_append] at apart
  simpa [Signature.names, Signature.flat, configurationInput, configurationArgument,
    Field.requiredInput, Field.optionalInput, Function.comp_def] using apart

/-- The functions of a plan have its parameters where its shape has them. -/
theorem holdsParameters_assemble (operation : Operation) (names : Names) (types : OperationTypes)
    (keywords : List (String × Expr)) (isAsync : Bool) :
    HoldsParameters (.assemble operation names types)
      (endpointFunction (.assemble operation names types) keywords isAsync) := by
  have bound := bound_endpointFunction (.assemble operation names types) keywords isAsync
  constructor
  case gathered =>
    intro uses
    obtain ⟨options, found⟩ := Option.isSome_iff_exists.1 uses
    rw [if_pos uses] at bound
    refine ⟨?_, bound⟩
    simp only [endpointFunction]
    rw [signature_assemble_of_options found]
    rfl
  case listed =>
    intro flat
    rw [if_neg (Bool.not_eq_true _ ▸ flat)] at bound
    refine ⟨?_, bound⟩
    simp only [endpointFunction]
    rw [signature_assemble_of_flat flat, map_name_bindings_assemble]
    exact (names_functionArguments_perm _).trans (names_flat_perm _)

/-! ## Parameters and everything else -/

/-- The names that the functions of an operation read beside those of its parameters. -/
def otherNames (plan : OperationPlan) : List String :=
  "configuration" :: (if plan.usesOptions then ["params"] else []) ++
    ["require", "format_collection", "request_sync", "request_async"] ++
    (answerTypes plan).flatMap (·.expr.reads)

theorem BodyRead.mem (read : BodyRead plan isAsync name) :
    name ∈ plan.bindings.map (·.name) ∨ name ∈ otherNames plan := by
  simp only [otherNames, List.mem_append, List.mem_cons, List.mem_flatMap]
  cases read with
  | parameter inBindings => exact .inl (List.mem_map_of_mem inBindings)
  | configuration => exact .inr (.inl (.inl (.inl rfl)))
  | options uses =>
      rw [if_pos uses]
      exact .inr (.inl (.inl (.inr (List.mem_singleton_self _))))
  | presence => exact .inr (.inl (.inr (.inl rfl)))
  | joining => exact .inr (.inl (.inr (.inr (.inl rfl))))
  | helper => cases isAsync <;> simp [requestHelper]
  | type isType inside => exact .inr (.inr ⟨_, isType, inside⟩)

/-- Parameters keep clear of every name that properties do. -/
theorem propertyReserved_subset (models : Models) :
    propertyReserved models ⊆ parameterReserved (endpointReserved models) := by
  intro name member
  simp only [propertyReserved, parameterReserved, endpointReserved, List.mem_append] at member ⊢
  tauto

/-- An annotation reads only names that properties keep clear of. -/
theorem mem_propertyReserved_of_mem_annotated {models : Models} {type : Mapped}
    (known : type.Known models) (accounted : type.Accounted) (member : name ∈ type.expr.annotated) :
    name ∈ propertyReserved models := by
  simp only [propertyReserved, List.mem_append]
  rcases accounted name member with isBuiltin | provided | isModel
  · exact .inl (.inl (.inl isBuiltin))
  · exact .inl (.inl (.inr (known.imports name provided.mem_requested)))
  · exact .inr (known.models isModel)

/-- An annotation reads only names that parameters keep clear of. -/
theorem mem_parameterReserved_of_mem_reads {models : Models} {type : Mapped}
    (known : type.Known models) (accounted : type.Accounted) (member : name ∈ type.expr.reads) :
    name ∈ parameterReserved (endpointReserved models) :=
  propertyReserved_subset models (mem_propertyReserved_of_mem_annotated known accounted
    (Expr.reads_subset_annotated _ member))

/-- Parameters keep clear of every other name that the functions of their operation read. -/
theorem otherNames_subset {models : Models} {operation : Operation} {types : OperationTypes}
    (mapped : mapTypes models operation = .ok types) (names : Names) :
    otherNames (.assemble operation names types) ⊆
      parameterReserved (endpointReserved models) := by
  intro name member
  simp only [otherNames, List.mem_append, List.mem_flatMap] at member
  rcases member with (isArgument | isHelper) | ⟨type, isType, inside⟩
  · have isCallName : name ∈ callNames := by
      revert isArgument
      split <;> intro isArgument <;> revert name <;> decide
    simp only [parameterReserved, List.mem_append]
    exact .inl (.inl (.inr isCallName))
  · have isRuntimeName : name ∈ runtimeNames := by
      revert name
      decide
    simp only [parameterReserved, List.mem_append]
    exact .inl (.inl (.inl (runtimeNames_subset isRuntimeName)))
  · have inTypes : type ∈ (OperationPlan.assemble operation names types).types := by
      simp only [OperationPlan.types, List.append_assoc]
      exact List.mem_append_right _ isType
    exact mem_parameterReserved_of_mem_reads
      ((closed_known models).types mapped names type inTypes)
      ((closed_accounted models).types mapped names type inTypes) inside

variable {variant : Variant} {document : Document} {modelsModule : String} {coverage : Coverage}

/-- The functions of an operation hold its parameters in locals that hide nothing: every name that
a body reads is that of a parameter or one of the other names, and no parameter has one of
these. -/
theorem locals_hide_nothing
    (covered : cover (.ofDocument variant document) modelsModule document.operations =
      .ok coverage) :
    ∀ code ∈ coverage.codes, ∀ function ∈ [code.functions.sync, code.functions.async],
      HoldsParameters code.plan function ∧
      (∀ name ∈ function.bodyReads,
        name ∈ code.plan.bindings.map (·.name) ∨ name ∈ otherNames code.plan) ∧
      ∀ name ∈ code.plan.bindings.map (·.name), name ∉ otherNames code.plan := by
  intro code inCodes function inFunctions
  obtain ⟨operation, -, names, types, keywords, resolved, mapped, found, rfl⟩ :=
    exists_assembled_of_mem_codes covered inCodes
  obtain ⟨isAsync, rfl⟩ : ∃ isAsync,
      function = endpointFunction (.assemble operation names types) keywords isAsync := by
    simp only [List.mem_cons, List.not_mem_nil, or_false] at inFunctions
    exact inFunctions.elim (⟨false, ·⟩) (⟨true, ·⟩)
  refine ⟨holdsParameters_assemble operation names types keywords isAsync, ?_, ?_⟩
  · intro name member
    exact (bodyRead_of_mem_bodyReads found member).mem
  · intro name member other
    obtain ⟨binding, inBindings, rfl⟩ := List.mem_map.1 member
    obtain ⟨field, inFields, rfl⟩ := List.mem_map.1 inBindings
    obtain ⟨parameter, -, belongs⟩ :=
      exists_mem_of_forall₂ (fields_of_resolved resolved mapped).1 inFields
    exact not_mem_of_memberName belongs.memberName_eq (otherNames_subset mapped names other)

/-- An operation whose parameters have the names of what its functions read. -/
def namesakes : Document where
  schemas := [("pet", {})]
  operations := [{
    name := "findPets"
    parameters := [
      { name := "params", location := .query },
      { name := "require", location := .header, required := true },
      { name := "request_sync", location := .query, collectionFormat := some .csv,
        type := { type := some "array", items := some { type := some "string" } } },
      { name := "Pet", location := .query },
      { name := "list", location := .form }]
    returnType := some { type := some "array", items := some { ref := some "pet" } } }]

/-- Every parameter of the operation gives way. -/
theorem namesakes_hide_nothing :
    ∃ coverage code,
      cover (.ofDocument .options namesakes) ".models" namesakes.operations = .ok coverage ∧
      code ∈ coverage.codes ∧
      code.plan.bindings.map (·.name) = ["params_", "require_", "request_sync_", "Pet_", "list_"] ∧
      otherNames code.plan = ["configuration", "params", "require", "format_collection",
        "request_sync", "request_async", "list", "Pet"] ∧
      HoldsParameters code.plan code.functions.sync ∧
      ∀ name ∈ code.plan.bindings.map (·.name), name ∉ otherNames code.plan := by
  have first : (cover (.ofDocument .options namesakes) ".models"
      namesakes.operations).toOption.bind (fun coverage => coverage.codes.head?.map fun code =>
        (code.plan.bindings.map (·.name), otherNames code.plan)) =
      some (["params_", "require_", "request_sync_", "Pet_", "list_"],
        ["configuration", "params", "require", "format_collection", "request_sync",
          "request_async", "list", "Pet"]) := by
    decide +kernel
  obtain ⟨coverage, code, covered, member, same⟩ := exists_code_of_head? first
  obtain ⟨names, others⟩ := Prod.mk.inj same
  obtain ⟨holds, -, apart⟩ :=
    locals_hide_nothing covered code member code.functions.sync List.mem_cons_self
  exact ⟨coverage, code, covered, member, names, others, holds, apart⟩

end Bindery.Client

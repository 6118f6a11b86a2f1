import Bindery.Proofs.Requests
import Bindery.Proofs.Scope
import Bindery.Proofs.Spelling

/-!
# What members may be called

The member of a parameter is at once a field, a setter and a local, so its name has to fit in all
three places.  It goes through a series of steps, each of which mends one thing and could undo what
an earlier one mended.  What they come to is put together here: whatever parameters are called, a
member starts with a letter, is no name with a meaning of its own, and is unlike all other members
of its operation.  From this alone follows that no class binds a name twice and no function has two
arguments of one name.
-/

namespace Bindery.Code

/-- The names that a member of a class binds. -/
def Member.binds : Member → List String
  | .statement line => line.binds
  | .method function => [function.name]

/-- The names that the body of a class binds, in its order. -/
def ClassDefinition.binds (definition : ClassDefinition) : List String :=
  definition.body.flatMap (·.binds)

end Bindery.Code

namespace Bindery.Plan

open Bindery.Api Bindery.Code Bindery.Naming Bindery.Steps Bindery.Typing

/-! ## Words -/

/-- A letter, and after it letters, digits and underscores. -/
def IsWord (text : String) : Prop :=
  ∃ first rest, text.toList = first :: rest ∧ first.isAlpha = true ∧
    ∀ c ∈ rest, isNameChar c = true

theorem IsWord.append {text more : String} (word : IsWord text)
    (chars : ∀ c ∈ more.toList, isNameChar c = true) : IsWord (text ++ more) := by
  obtain ⟨first, rest, shape, letter, later⟩ := word
  refine ⟨first, rest ++ more.toList, ?_, letter, ?_⟩
  · rw [String.toList_append, shape, List.cons_append]
  · exact List.forall_mem_append.2 ⟨later, chars⟩

/-- A word does not start with an underscore. -/
theorem IsWord.head?_ne {text : String} (word : IsWord text) :
    text.toList.head? ≠ some '_' := by
  obtain ⟨first, rest, shape, letter, -⟩ := word
  rw [shape]
  rintro ⟨⟩
  exact absurd letter (by decide)

/-- A name that is spelled as one is a word, or has one in front, when it is made visible. -/
theorem isWord_visible {name : String} (spelled : Spelled name) : IsWord (visible name) := by
  have field : IsWord "field" := by
    refine ⟨'f', "ield".toList, by simp, by decide, ?_⟩
    simp [isNameChar, isWordChar, Char.isAlphanum]
  simp only [visible]
  split
  · exact field
  · split
    · exact field.append spelled.chars
    · next nonempty shown =>
        cases shape : name.toList with
        | nil => exact absurd (String.toList_eq_nil_iff.1 shape) (by simpa using nonempty)
        | cons first rest =>
            have chars := shape ▸ spelled.chars
            have noDigit := spelled.start first (by rw [shape]; rfl)
            have noUnderscore : first ≠ '_' := by
              rintro rfl
              exact shown (by rw [shape]; rfl)
            have letter : first.isAlpha = true := by
              simpa [isNameChar, isWordChar, Char.isAlphanum, noDigit, noUnderscore] using
                chars first List.mem_cons_self
            exact ⟨first, rest, shape, letter, (List.forall_mem_cons.1 chars).2⟩

/-! ## Names with a meaning -/

/-- Names that no member may have: those of the arguments and methods that it stands beside, those
that annotations read, and those that the base class of models has a meaning for. -/
def takenNames : List String :=
  callNames ++ annotationBuiltins ++ annotationImports ++ modelAttributes

/-- A name that was made a member is a word. -/
theorem isWord_of_member {name result : String} {reserved : List String}
    (derived : Naming.member name reserved = .ok result) : IsWord result := by
  obtain ⟨text, plainForm, rfl⟩ := map_eq_ok_iff.1 derived
  have word := isWord_visible (spelled_plain plainForm)
  rw [guardMember_eq]
  split
  · exact word.append (by simp [isNameChar])
  · exact word

/-- A member gives way to every name with a meaning, by an underscore that none of them ends in. -/
theorem not_mem_takenNames_of_memberName {reserved : List String} {parameter member : String}
    (derived : memberName reserved parameter = .ok member) : member ∉ takenNames := by
  have unmarked : ∀ taken ∈ takenNames, Unmarked taken := by decide +kernel
  intro isTaken
  refine member_ne derived ?_ (unmarked _ isTaken) rfl
  simp only [takenNames, parameterReserved, List.mem_append] at isTaken ⊢
  rcases isTaken with ((isCallName | isBuiltin) | isImport) | isAttribute
  · exact .inr (.inl (.inl (.inr isCallName)))
  · exact .inr (.inl (.inr isBuiltin))
  · exact .inr (.inr isImport)
  · exact .inl isAttribute

/-! ## The members of an operation -/

/-- Members that fit wherever they are used: there is one for each parameter, they are all
different, and each of them is a word without a meaning of its own. -/
structure Fit (reserved : List String) (parameters : List Parameter) (members : List String) :
    Prop where
  aligned : List.Forall₂
    (fun parameter member => memberName reserved parameter.name = .ok member) parameters members
  distinct : members.Nodup
  words : ∀ member ∈ members, IsWord member
  free : ∀ member ∈ members, member ∉ takenNames

theorem fit_of_resolveMembers {reserved : List String} {operation : String}
    {parameters : List Parameter} {members : List String}
    (resolved : Names.resolveMembers reserved operation [] parameters = .ok members) :
    Fit reserved parameters members := by
  have aligned := forall₂_memberName resolved
  refine ⟨aligned, (nodup_of_resolveMembers resolved).1, ?_, ?_⟩
  · intro member inMembers
    obtain ⟨parameter, -, derived⟩ := exists_mem_of_forall₂ aligned inMembers
    exact isWord_of_member derived
  · intro member inMembers
    obtain ⟨parameter, -, derived⟩ := exists_mem_of_forall₂ aligned inMembers
    exact not_mem_takenNames_of_memberName derived

namespace Fit

variable {reserved : List String} {parameters : List Parameter} {members : List String}
  (fit : Fit reserved parameters members)
include fit

/-- A name that is taken or starts with an underscore is none of the members. -/
theorem not_mem {name : String} (other : name ∈ takenNames ∨ name.toList.head? = some '_') :
    name ∉ members := by
  intro member
  rcases other with isTaken | underscore
  · exact fit.free name member isTaken
  · exact (fit.words name member).head?_ne underscore

/-- The members are still different between names that are different from each other and none of
them. -/
theorem nodup_between (before after : List String) (distinct : (before ++ after).Nodup)
    (others : ∀ name ∈ before ++ after, name ∈ takenNames ∨ name.toList.head? = some '_') :
    (before ++ members ++ after).Nodup := by
  have front : (before ++ members ++ after).Perm (members ++ (before ++ after)) := by
    rw [← List.append_assoc]
    exact List.perm_append_comm.append_right after
  rw [front.nodup_iff]
  refine fit.distinct.append distinct ?_
  intro name member other
  exact fit.not_mem (others name other) member

end Fit

end Bindery.Plan

namespace Bindery.Client

open Bindery.Api Bindery.Code Bindery.Naming Bindery.Plan Bindery.Steps Bindery.Typing

/-! ## Classes and arguments -/

theorem binds_optionsClass (options : Options) (builder : Builder) :
    (optionsClass options builder).definition.binds =
      ["model_config"] ++ options.fieldNames ++ ["builder"] := by
  simp [ClassDefinition.binds, optionsClass, Member.binds, Statement.binds, builderMethod,
    List.flatMap_map, fieldStatement, Options.fieldNames, ← List.map_eq_flatMap]

theorem binds_builderClass (builder : Builder) :
    (builderClass builder).definition.binds =
      ["__slots__", "__init__"] ++ builder.setterNames ++ ["build"] := by
  simp [ClassDefinition.binds, builderClass, Member.binds, Statement.binds, method,
    List.flatMap_map, setterMethod, Builder.setterNames, ← List.map_eq_flatMap]

/-- Names that a builder has beside its setters, by itself or from its base class. -/
def builderNames : List String := ["build", "__init__", "_current", "_finish"]

/-- The code of a plan in which no name gets in the way of another: each class binds every name
once, no setter overrides what a builder has beside its setters, and no two arguments of a function
have the same name. -/
structure NamedApart (plan : OperationPlan) : Prop where
  classes : ∀ piece ∈ OperationCode.classesOf plan, piece.definition.binds.Nodup
  setters : ∀ builder ∈ plan.builder, ∀ name ∈ builderNames, name ∉ builder.setterNames
  arguments : (functionArguments plan.signature).names.Nodup

/-- If its members fit, no name in the code of a plan gets in the way of another. -/
theorem namedApart_assemble {reserved : List String} {operation : Operation} {names : Names}
    (fit : Fit reserved operation.parameters names.members) {types : OperationTypes}
    (aligned : types.parameters.length = operation.parameters.length) :
    NamedApart (.assemble operation names types) := by
  have members : (fieldsOf names.members operation.parameters types.parameters).map (·.name) =
      names.members := map_name_fieldsOf fit.aligned.length_eq.symm aligned
  have ofOptions {options : Options}
      (found : (OperationPlan.assemble operation names types).options = some options) :
      options.fieldNames = names.members ∧
        (OperationPlan.assemble operation names types).builder = some (.make options) := by
    refine ⟨?_, congrArg (Option.map Builder.make) found⟩
    obtain ⟨name, -, rfl⟩ := Option.map_eq_some_iff.1 found
    exact members
  refine ⟨?classes, ?setters, ?arguments⟩
  case classes =>
    intro piece member
    cases found : (OperationPlan.assemble operation names types).options with
    | none => simp [OperationCode.classesOf, found] at member
    | some options =>
        rw [classesOf_of_options rfl found] at member
        simp only [List.mem_cons, List.not_mem_nil, or_false] at member
        rcases member with rfl | rfl
        · rw [binds_optionsClass, (ofOptions found).1]
          exact fit.nodup_between _ _ (by decide) (by decide)
        · rw [binds_builderClass, Builder.setterNames_make, (ofOptions found).1]
          exact fit.nodup_between _ _ (by decide) (by decide)
  case setters =>
    intro builder built name isBuilderName
    obtain ⟨options, found, rfl⟩ := Option.map_eq_some_iff.1 built
    rw [Builder.setterNames_make, (ofOptions found).1]
    apply fit.not_mem
    revert name
    decide
  case arguments =>
    have holds := holdsParameters_assemble operation names types [] false
    change (endpointFunction (.assemble operation names types) [] false).arguments.names.Nodup
    cases uses : (OperationPlan.assemble operation names types).usesOptions with
    | true =>
        rw [(holds.gathered uses).1]
        decide
    | false =>
        rw [List.Perm.nodup_iff (holds.listed uses).1]
        rw [map_name_bindings_assemble, members]
        simpa using fit.nodup_between ["configuration"] [] (by decide) (by decide)

/-- Wherever names can be derived, the members fit: there is one for each parameter in their order,
no two are the same, and each is a letter followed by letters, digits and underscores and none of
the names that are taken.  So no class of a plan binds a name twice, no setter overrides what its
builder has already, and no function has two arguments of one name. -/
theorem members_fit (reserved : List String) (operation : Operation) :
    (∀ usesOptions names, Names.resolve reserved operation usesOptions = .ok names →
      Fit reserved operation.parameters names.members) ∧
    ∀ variant models plan, Plan.plan ⟨variant, models, reserved⟩ operation = .ok plan →
      Fit reserved operation.parameters plan.names.members ∧ NamedApart plan := by
  constructor
  · intro usesOptions names resolved
    exact fit_of_resolveMembers (Names.resolve_eq_ok_iff.1 resolved).members
  · intro variant models plan planned
    obtain ⟨names, types, resolved, mapped, rfl⟩ := plan_eq_ok_iff.1 planned
    have fit := fit_of_resolveMembers resolved.members
    exact ⟨fit, namedApart_assemble fit (length_parameters_of_mapTypes mapped)⟩

/-- An operation whose parameters are called like everything that members keep clear of. -/
def awkward : Operation where
  name := "tag"
  parameters := [
    { name := "build", location := .query },
    { name := "class", location := .query },
    { name := "_current", location := .query },
    { name := "model_config", location := .header },
    { name := "2nd-É.list", location := .header },
    { name := "list", location := .form },
    { name := "Any", location := .form },
    { name := "é", location := .query, required := true }]

/-- Every parameter of the operation gets a member of its own. -/
theorem awkward_members_fit :
    ∃ names plan,
      Names.resolve ["é"] awkward false = .ok names ∧
      names.members = ["build_", "class_", "field_current", "model_config_", "field_2nd_E_list",
        "list_", "Any_", "e"] ∧
      Fit ["é"] awkward.parameters names.members ∧
      Plan.plan ⟨.options, .ofSchemas [], ["é"]⟩ awkward = .ok plan ∧
      NamedApart plan := by
  have shown : ((Names.resolve ["é"] awkward false).toOption.bind fun names =>
      (Plan.plan ⟨.options, .ofSchemas [], ["é"]⟩ awkward).toOption.map fun _ => names.members) =
      some ["build_", "class_", "field_current", "model_config_", "field_2nd_E_list", "list_",
        "Any_", "e"] := by
    decide +kernel
  obtain ⟨names, resolved, shown⟩ := toOption_bind_eq_some_iff.1 shown
  obtain ⟨plan, planned, members⟩ := toOption_map_eq_some_iff.1 shown
  obtain ⟨fit, apart⟩ := members_fit ["é"] awkward
  exact ⟨names, plan, resolved, members, fit false names resolved, planned,
    (apart _ _ plan planned).2⟩

end Bindery.Client

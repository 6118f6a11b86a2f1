import Bindery.Proofs.Mapping
import Bindery.Proofs.Members
import Bindery.Proofs.ModelNames

/-!
# Values that may be left out

Wherever emitted code lets a value be left out, it annotates the value with the widened annotation
of its declared type, and the value is absent by default.  An annotation that is spelled like the
type of any value is taken for it and not widened.  The class of a schema may be spelled so, and
that is the only way in which a widened annotation comes not to admit the absence of a value.
-/

namespace Bindery.Code

/-- The annotation and the value of a field that a member of a class declares. -/
def Member.annotated? : Member → Option (Expr × Expr)
  | .statement (.declare _ shown value) => some (shown, value)
  | _ => none

/-- The annotations and the values of the fields that a class declares, in their order. -/
def ClassDefinition.annotated (definition : ClassDefinition) : List (Expr × Expr) :=
  definition.body.filterMap (·.annotated?)

end Bindery.Code

namespace Bindery.Typing

open Bindery.Api Bindery.Code Bindery.Steps

/-! ## Widened annotations -/

/-- An annotation that admits the absence of a value: a union with it, or the type of any value from
the library, which no model class stands in for. -/
def Mapped.AdmitsAbsence (type : Mapped) : Prop :=
  (∃ inner, type.expr = .union inner .none) ∨
    type.expr = .name "Any" ∧ type.imports.Takes "typing" "Any" ∧ "Any" ∉ type.models

/-- A reference to a schema whose class is called like the type of any value. -/
def CalledAny (models : Models) (type : TypeRef) : Prop :=
  ∃ ref ∈ type.ref, models.className? (Models.target ref) = some "Any"

theorem admitsAbsence_optional {core : Mapped} (narrow : core.nullable = false)
    (notAny : core.isAny = false) : core.optional.AdmitsAbsence := by
  refine .inl ⟨core.expr, ?_⟩
  simp [Mapped.optional, narrow, notAny]

theorem admitsAbsence_optional_any : Mapped.any.optional.AdmitsAbsence := by
  refine .inr ⟨rfl, ?_, List.not_mem_nil⟩
  exact Imports.takes_from_.2 ⟨rfl, by decide, List.mem_singleton_self _⟩

/-- The class that is called like the type of any value is not widened. -/
theorem not_admitsAbsence_optional_model : ¬ (Mapped.model "Any").optional.AdmitsAbsence := by
  rintro (⟨inner, isUnion⟩ | ⟨-, -, notModel⟩)
  · cases isUnion
  · exact notModel (List.mem_singleton_self _)

theorem admitsAbsence_optional_model_iff {className : String} :
    (Mapped.model className).optional.AdmitsAbsence ↔ className ≠ "Any" := by
  constructor
  · rintro admits rfl
    exact not_admitsAbsence_optional_model admits
  · intro other
    exact admitsAbsence_optional rfl (decide_eq_false other)

/-- The widened annotation of a declared type admits the absence of a value, unless the type is a
reference to a class that is called like the type of any value. -/
theorem admitsAbsence_optional_iff {models : Models} {type : TypeRef} {mapped : Mapped}
    (done : models.map type = .ok mapped) :
    mapped.optional.AdmitsAbsence ↔ ¬ CalledAny models type := by
  obtain ⟨core, step, widened⟩ := exists_step_of_map done
  rw [optional_eq_of_widened widened]
  have notCalled (noReference : type.ref = none) : ¬ CalledAny models type := by
    rintro ⟨ref, isReference, -⟩
    rw [noReference] at isReference
    cases isReference
  cases step with
  | @reference ref className isReference isClass =>
      rw [admitsAbsence_optional_model_iff]
      refine not_congr ⟨?_, ?_⟩
      · rintro rfl
        exact ⟨ref, isReference, isClass⟩
      · rintro ⟨other, isOther, called⟩
        cases isReference.symm.trans isOther
        exact Option.some.inj (isClass.symm.trans called)
  | enumeration noReference =>
      exact iff_of_true (admitsAbsence_optional rfl rfl) (notCalled noReference)
  | unnamed noReference =>
      exact iff_of_true admitsAbsence_optional_any (notCalled noReference)
  | array named | object named | openObject named =>
      exact iff_of_true (admitsAbsence_optional rfl rfl) (notCalled named.ref)
  | @scalar name primitive named =>
      have notAny : primitive.mapped.isAny = false := by
        cases primitive <;> decide
      exact iff_of_true (admitsAbsence_optional rfl notAny) (notCalled named.ref)

end Bindery.Typing

namespace Bindery.Client

open Bindery.Api Bindery.Code Bindery.Plan Bindery.Steps Bindery.Typing

/-! ## Where values may be left out -/

/-- A value of a declared type that may be left out: it has the widened annotation of its type and
is absent by default.  The annotation admits that, unless the type is a reference to a class that is
called like the type of any value. -/
def MayBeAbsent (models : Models) (type : TypeRef) (shown default : Expr) : Prop :=
  ∃ mapped, models.map type = .ok mapped ∧ shown = mapped.optional.expr ∧
    default.default? = some .none ∧ (mapped.optional.AdmitsAbsence ↔ ¬ CalledAny models type)

theorem mayBeAbsent_of_map {models : Models} {type : TypeRef} {mapped : Mapped}
    (done : models.map type = .ok mapped) {default : Expr}
    (absent : default.default? = some .none) :
    MayBeAbsent models type mapped.optional.expr default :=
  ⟨mapped, done, rfl, absent, admitsAbsence_optional_iff done⟩

theorem annotated_optionsClass (options : Options) (builder : Builder) :
    (optionsClass options builder).definition.annotated =
      options.fields.filterMap fun field =>
        (Member.statement (fieldStatement field)).annotated? := by
  simp only [ClassDefinition.annotated, optionsClass]
  rw [List.cons_append, List.filterMap_cons_none rfl, List.filterMap_append, List.filterMap_map]
  exact List.append_nil _

/-- The fields of an options class may be left out, each of the type of its parameter. -/
theorem forall₂_annotated_optionsClass {models : Models} {parameters : List Parameter}
    {options : Options} (builder : Builder)
    (mapped : List.Forall₂ (fun parameter field => models.map parameter.type = .ok field.type)
      parameters options.fields) :
    List.Forall₂ (fun parameter field => MayBeAbsent models parameter.type field.1 field.2)
      parameters (optionsClass options builder).definition.annotated := by
  rw [annotated_optionsClass]
  generalize options.fields = fields at mapped
  induction mapped with
  | nil => exact .nil
  | cons first _ ih =>
      refine .cons (mayBeAbsent_of_map first ?_) ih
      exact default?_of_declared?_fieldStatement rfl

/-- An argument that is passed by keyword may be left out and is the input of a parameter that is
not required. -/
theorem mayBeAbsent_of_mem_keywordOnly {setting : Setting} {operation : Operation}
    {plan : OperationPlan} (planned : Plan.plan setting operation = .ok plan)
    (keywords : List (String × Expr)) (isAsync : Bool) :
    ∀ argument ∈ (endpointFunction plan keywords isAsync).arguments.keywordOnly,
      ∃ parameter ∈ operation.parameters, parameter.required = false ∧
        ∃ shown, argument.1.type = some shown ∧
          MayBeAbsent setting.models parameter.type shown argument.2 := by
  obtain ⟨names, types, resolved, mapped, rfl⟩ := plan_eq_ok_iff.1 planned
  obtain ⟨belong, -⟩ := fields_of_resolved resolved mapped
  intro argument member
  simp only [endpointFunction] at member
  cases uses : (OperationPlan.assemble operation names types).usesOptions with
  | true =>
      -- The two inputs of a function with options are passed by position.
      obtain ⟨options, found⟩ := Option.isSome_iff_exists.1 uses
      rw [signature_assemble_of_options found] at member
      exact absurd member List.not_mem_nil
  | false =>
      rw [signature_assemble_of_flat uses, functionArguments, keywordOnly_flat, List.map_map]
        at member
      obtain ⟨field, isField, rfl⟩ := List.mem_map.1 member
      obtain ⟨inFields, notRequired⟩ := List.mem_filter.1 isField
      obtain ⟨parameter, isParameter, belongs⟩ := exists_mem_of_forall₂ belong inFields
      rw [belongs.parameter_eq, Bool.not_eq_true'] at notRequired
      exact ⟨parameter, isParameter, notRequired, _, rfl, mayBeAbsent_of_map belongs.map_eq rfl⟩

/-- The value that a field of a model class is declared with. -/
def ModelField.value (field : ModelField) : Expr :=
  .call (.name "Field") [] <|
    (if field.required then [] else [("default", .none)]) ++ [("alias", .text field.property)]

@[simp] theorem default?_value (field : ModelField) :
    field.value.default? = if field.required then none else some .none := by
  obtain ⟨name, property, required, type⟩ := field
  cases required <;> rfl

/-- A model class annotates its fields, each with the value that it is declared with. -/
theorem annotated_definition (model : Model) :
    model.definition.annotated =
      model.fields.map fun field => (field.fieldType.expr, field.value) := by
  simp only [ClassDefinition.annotated, Model.definition]
  rw [List.filterMap_cons_none rfl, List.filterMap_map, ← List.filterMap_eq_map]
  rfl

/-- The fields of a model class may be left out, each of the type of its property, unless the schema
requires them. -/
theorem forall₂_annotated_definition {models : Models} {name : String} {schema : Schema}
    {model : Model} (made : Model.make models name schema = .ok model) :
    List.Forall₂ (fun declared field => declared.1 ∉ schema.required →
        MayBeAbsent models declared.2 field.1 field.2)
      schema.properties model.definition.annotated := by
  obtain ⟨fields, done, rfl⟩ := map_eq_ok_iff.1 made
  rw [annotated_definition, List.forall₂_map_right_iff]
  refine (forall₂_belongsTo_modelFields done).imp fun declared field belongs notRequired => ?_
  have optional : field.required = false := by
    rw [belongs.required_eq]
    exact decide_eq_false notRequired
  have absent : field.value.default? = some .none := by simp [optional]
  simp only [ModelField.fieldType, optional]
  exact mayBeAbsent_of_map belongs.map_eq absent

/-- The widened annotation of a declared type admits the absence of a value exactly if the type is
no reference to a class that is called like the type of any value.  So it is with every value that
may be left out: the fields of an options class, the arguments that are passed by keyword, and the
fields of a model class that its schema does not require. -/
theorem optional_admits_absence_iff (models : Models) :
    (∀ type mapped, models.map type = .ok mapped →
      (mapped.optional.AdmitsAbsence ↔ ¬ CalledAny models type)) ∧
    (∀ variant reserved operation plan,
      Plan.plan ⟨variant, models, reserved⟩ operation = .ok plan →
        (∀ options builder, plan.options = some options →
          List.Forall₂ (fun parameter field => MayBeAbsent models parameter.type field.1 field.2)
            operation.parameters (optionsClass options builder).definition.annotated) ∧
        ∀ keywords isAsync,
          ∀ argument ∈ (endpointFunction plan keywords isAsync).arguments.keywordOnly,
            ∃ parameter ∈ operation.parameters, parameter.required = false ∧
              ∃ shown, argument.1.type = some shown ∧
                MayBeAbsent models parameter.type shown argument.2) ∧
    ∀ name schema model, Model.make models name schema = .ok model →
      List.Forall₂ (fun declared field => declared.1 ∉ schema.required →
          MayBeAbsent models declared.2 field.1 field.2)
        schema.properties model.definition.annotated := by
  refine ⟨fun _ _ => admitsAbsence_optional_iff, ?operations, ?schemas⟩
  case operations =>
    intro variant reserved operation plan planned
    refine ⟨?_, mayBeAbsent_of_mem_keywordOnly planned⟩
    intro options builder found
    obtain ⟨names, types, resolved, mapped, rfl⟩ := plan_eq_ok_iff.1 planned
    obtain ⟨optionsName, -, rfl⟩ := Option.map_eq_some_iff.1 found
    refine forall₂_annotated_optionsClass builder ?_
    exact (fields_of_resolved resolved mapped).1.imp fun _ _ belongs => belongs.map_eq
  case schemas => exact fun name schema model => forall₂_annotated_definition

/-- Pets with a name that is required and a parent that is not. -/
def litter : Schema where
  properties := [("name", { type := some "string" }), ("parent", { ref := some "Pet" })]
  required := ["name"]

/-- A pet that may be missing is admitted so, and every value that may be left out is annotated for
that: all four options of the search, two of its arguments and the parent of a pet. -/
theorem pets_admit_absence :
    ∃ pet gathered options listed model,
      (Models.ofSchemas ["Pet"]).map { ref := some "Pet" } = .ok pet ∧
      pet.optional.AdmitsAbsence ∧
      Plan.plan ⟨.options, .ofSchemas ["Pet"], []⟩ searchPets = .ok gathered ∧
      gathered.options = some options ∧
      List.Forall₂
        (fun parameter field =>
          MayBeAbsent (.ofSchemas ["Pet"]) parameter.type field.1 field.2)
        searchPets.parameters (optionsClass options (.make options)).definition.annotated ∧
      Plan.plan ⟨.flat, .ofSchemas ["Pet"], []⟩ searchPets = .ok listed ∧
      (endpointFunction listed [] false).arguments.keywordOnly.map (·.1.name) =
        ["X_Trace", "copy_"] ∧
      (∀ argument ∈ (endpointFunction listed [] false).arguments.keywordOnly,
        ∃ parameter ∈ searchPets.parameters, parameter.required = false ∧
          ∃ shown, argument.1.type = some shown ∧
            MayBeAbsent (.ofSchemas ["Pet"]) parameter.type shown argument.2) ∧
      Model.make (.ofSchemas ["Pet"]) "Pet" litter = .ok model ∧
      List.Forall₂ (fun declared field => declared.1 ∉ litter.required →
          MayBeAbsent (.ofSchemas ["Pet"]) declared.2 field.1 field.2)
        litter.properties model.definition.annotated := by
  have mapped : ((Models.ofSchemas ["Pet"]).map { ref := some "Pet" }).toOption.isSome := by
    decide +kernel
  have gathers : ((Plan.plan ⟨.options, .ofSchemas ["Pet"], []⟩ searchPets).toOption.bind
      (·.options)).isSome := by
    decide +kernel
  have lists : (Plan.plan ⟨.flat, .ofSchemas ["Pet"], []⟩ searchPets).toOption.map
      (fun plan => (endpointFunction plan [] false).arguments.keywordOnly.map (·.1.name)) =
        some ["X_Trace", "copy_"] := by
    decide +kernel
  have makes : (Model.make (.ofSchemas ["Pet"]) "Pet" litter).toOption.isSome := by
    decide +kernel
  obtain ⟨pet, mapped⟩ := isSome_toOption_iff.1 mapped
  obtain ⟨options, gathers⟩ := Option.isSome_iff_exists.1 gathers
  obtain ⟨gathered, planned, found⟩ := toOption_bind_eq_some_iff.1 gathers
  obtain ⟨listed, listing, names⟩ := toOption_map_eq_some_iff.1 lists
  obtain ⟨model, made⟩ := isSome_toOption_iff.1 makes
  have notCalled : ¬ CalledAny (.ofSchemas ["Pet"]) { ref := some "Pet" } := by
    unfold CalledAny
    decide +kernel
  obtain ⟨types, operations, schemas⟩ := optional_admits_absence_iff (.ofSchemas ["Pet"])
  exact ⟨pet, gathered, options, listed, model, mapped, (types _ _ mapped).2 notCalled,
    planned, found, (operations _ _ _ _ planned).1 options (.make options) found,
    listing, names, (operations _ _ _ _ listing).2 [] false, made, schemas _ _ _ made⟩

/-- A reference to a class that is called like the type of any value is widened to itself. -/
theorem calledAny_refuses_absence :
    ∃ mapped, (Models.ofSchemas ["any"]).map { ref := some "any" } = .ok mapped ∧
      mapped.optional.expr = .name "Any" ∧ mapped.optional.models = ["Any"] ∧
      ¬ mapped.optional.AdmitsAbsence := by
  have called : (Models.ofSchemas ["any"]).className? (Models.target "any") = some "Any" := by
    decide +kernel
  have done : (Models.ofSchemas ["any"]).map { ref := some "any" } = .ok (.model "Any") := by
    rw [Models.map_eq]
    simp only [Models.bare]
    rw [called]
    rfl
  exact ⟨_, done, rfl, rfl, not_admitsAbsence_optional_model⟩

end Bindery.Client

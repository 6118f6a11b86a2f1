import Bindery.Proofs.Absence
import Bindery.Proofs.Failures
import Bindery.Proofs.FieldNames

/-!
# The fields of a schema's class

The properties of a schema are gone through in their order.  Each needs an annotation, a name that
is not empty and a field that is kept apart from those before it, and the first that lacks something
ends this.  What a property is called on the wire goes through unchanged, and whether it may be left
out is told by that name and not by the name of its field.
-/

namespace Bindery.Client

open Bindery.Api Bindery.Code Bindery.Naming Bindery.Plan Bindery.Steps Bindery.Typing

/-! ## Fields -/

@[simp] theorem alias?_value (field : ModelField) : field.value.alias? = some field.property := by
  obtain ⟨name, property, required, type⟩ := field
  cases required <;> rfl

/-- A declared field, by its annotation and its value, that stands for a property: it has the name
of the property as its alias and is annotated with its mapped type.  If the schema does not require
the property, the annotation is widened and the field is absent by default; if it does, there is no
default. -/
structure Declares (models : Models) (required : List String) (declared : String × TypeRef)
    (field : Expr × Expr) : Prop where
  annotation : ∃ mapped, models.map declared.2 = .ok mapped ∧
    field.1 = if declared.1 ∈ required then mapped.expr else mapped.optional.expr
  alias_eq : field.2.alias? = some declared.1
  default_eq : field.2.default? = if declared.1 ∈ required then none else some .none

variable {models : Models} {schemaName : String} {schema : Schema}

/-- The fields that a class declares stand for the properties of its schema, each for the one at its
position. -/
theorem forall₂_declares {model : Model} (made : Model.make models schemaName schema = .ok model) :
    List.Forall₂ (Declares models schema.required) schema.properties
      model.definition.annotated := by
  obtain ⟨fields, done, rfl⟩ := map_eq_ok_iff.1 made
  rw [annotated_definition, List.forall₂_map_right_iff]
  refine (forall₂_belongsTo_modelFields done).imp fun declared field belongs => ?_
  refine ⟨⟨field.type, belongs.map_eq, ?_⟩, ?_, ?_⟩
  · simp only [ModelField.fieldType, belongs.required_eq, decide_eq_true_eq]
    exact apply_ite Mapped.expr _ _ _
  · rw [alias?_value, belongs.property_eq]
  · simp [belongs.required_eq]

/-! ## Properties without a field -/

/-- What a property has to have to get a field, in the order in which it is looked for: an
annotation, and a name that it asks for. -/
def askField (models : Models) (schemaName : String) (declared : String × TypeRef) :
    Except ModelError (Mapped × String) := do
  let mapped ← (models.map declared.2).mapError fun cause =>
    .unmappable cause schemaName declared.1
  let name ← (member declared.1 (propertyReserved models)).mapError .emptyName
  return (mapped, name)

/-- A property lacks an annotation, or it has one and lacks a name. -/
theorem askField_eq_error_iff {declared : String × TypeRef} {error : ModelError} :
    askField models schemaName declared = .error error ↔
      (∃ cause, models.map declared.2 = .error cause ∧
        error = .unmappable cause schemaName declared.1) ∨
      (∃ mapped, models.map declared.2 = .ok mapped) ∧ declared.1 = "" ∧
        error = .emptyName .emptyName := by
  simp only [askField, bind_eq_error_iff, mapError_eq_error_iff, mapError_eq_ok_iff,
    member_eq_error_iff]
  constructor
  · rintro (⟨cause, failed, rfl⟩ | ⟨mapped, done, ⟨⟨⟩, unnamed, rfl⟩ | ⟨_, -, impossible⟩⟩)
    · exact .inl ⟨cause, failed, rfl⟩
    · exact .inr ⟨⟨mapped, done⟩, unnamed, rfl⟩
    · cases impossible
  · rintro (⟨cause, failed, rfl⟩ | ⟨⟨mapped, done⟩, unnamed, rfl⟩)
    · exact .inl ⟨cause, failed, rfl⟩
    · exact .inr ⟨mapped, done, .inl ⟨.emptyName, unnamed, rfl⟩⟩

/-- A property can get a field if its type has an annotation and its name is not empty. -/
theorem exists_askField_eq_ok_iff {declared : String × TypeRef} :
    (∃ asked, askField models schemaName declared = .ok asked) ↔
      (∃ mapped, models.map declared.2 = .ok mapped) ∧ declared.1 ≠ "" := by
  rw [exists_ok_iff]
  constructor
  · intro sound
    have mapped : ∃ mapped, models.map declared.2 = .ok mapped :=
      exists_ok_iff.2 fun cause failed =>
        sound _ (askField_eq_error_iff.2 (.inl ⟨cause, failed, rfl⟩))
    exact ⟨mapped, fun unnamed => sound _ (askField_eq_error_iff.2 (.inr ⟨mapped, unnamed, rfl⟩))⟩
  · rintro ⟨mapped, isNamed⟩ error failed
    rcases askField_eq_error_iff.1 failed with ⟨cause, unmapped, -⟩ | ⟨-, unnamed, -⟩
    · exact exists_ok_iff.1 mapped cause unmapped
    · exact isNamed unnamed

/-- The first property gets its field from what it has, and the others get theirs after it. -/
theorem modelFields_cons (required taken : List String) (first : String × TypeRef)
    (rest : List (String × TypeRef)) :
    modelFields models schemaName required taken (first :: rest) =
      askField models schemaName first >>= fun asked =>
        (modelFields models schemaName required (give taken asked.2 :: taken) rest).map
          (⟨give taken asked.2, first.1, first.1 ∈ required, asked.1⟩ :: ·) := by
  rw [modelFields, askField]
  cases (models.map first.2).mapError fun cause =>
      ModelError.unmappable cause schemaName first.1 with
  | error => rfl
  | ok mapped =>
      cases (member first.1 (propertyReserved models)).mapError ModelError.emptyName with
      | error => rfl
      | ok name =>
          simp only [give]
          cases modelFields models schemaName required
              ((if name ∈ taken then name ++ "_" else name) :: taken) rest with
          | error => rfl
          | ok more => rfl

/-- The fields of a schema cannot be made exactly if one of its properties lacks something, and the
first of them is reported. -/
theorem modelFields_eq_error_iff {required taken : List String}
    {properties : List (String × TypeRef)} {error : ModelError} :
    modelFields models schemaName required taken properties = .error error ↔
      ∃ declared, FailsFirst (askField models schemaName) properties declared error := by
  induction properties generalizing taken with
  | nil =>
      refine iff_of_false (fun failed => by cases failed) ?_
      rintro ⟨declared, first⟩
      exact not_failsFirst_nil first
  | cons first rest ih =>
      simp only [failsFirst_cons_iff, exists_or, exists_eq_left, exists_and_left,
        modelFields_cons, bind_eq_error_iff, map_eq_error_iff, ih, exists_and_right]

theorem makeModel_eq_error_iff {error : ModelError} :
    Model.make models schemaName schema = .error error ↔
      ∃ declared, FailsFirst (askField models schemaName) schema.properties declared error := by
  rw [Model.make, map_eq_error_iff, modelFields_eq_error_iff]

/-- The fields of a schema's class, if there is one, stand for its properties.  If some property has
no annotation, the first that has none is reported with the schema, unless a property before it has
no name.  Then this is reported, and neither the schema nor a property is. -/
structure FollowsProperties (models : Models) (schemaName : String) (schema : Schema) : Prop where
  fields : ∀ model, Model.make models schemaName schema = .ok model →
    List.Forall₂ (Declares models schema.required) schema.properties model.definition.annotated
  unmappable : (¬ ∀ declared ∈ schema.properties, ∃ mapped, models.map declared.2 = .ok mapped) →
    ∃ before declared after cause, schema.properties = before ++ declared :: after ∧
      (∀ earlier ∈ before, ∃ mapped, models.map earlier.2 = .ok mapped) ∧
      models.map declared.2 = .error cause ∧
      ((∀ earlier ∈ before, earlier.1 ≠ "") →
        Model.make models schemaName schema = .error (.unmappable cause schemaName declared.1) ∧
        (ModelError.unmappable cause schemaName declared.1).fault? =
          some (.unmappableType cause.type cause.reason.message (some schemaName)
            (some declared.1))) ∧
      ((∃ earlier ∈ before, earlier.1 = "") →
        Model.make models schemaName schema = .error (.emptyName .emptyName))

/-- The class of every schema follows its properties, whatever classes there are beside it. -/
theorem fields_follow_properties (models : Models) (schemaName : String) (schema : Schema) :
    FollowsProperties models schemaName schema := by
  constructor
  case fields => exact fun model made => forall₂_declares made
  case unmappable =>
    intro someFails
    obtain ⟨declared, cause, before, after, split, mapped, failed⟩ :=
      exists_failsFirst_iff.2 someFails
    refine ⟨before, declared, after, cause, split, mapped, failed, ?_, ?_⟩
    · intro isNamed
      refine ⟨makeModel_eq_error_iff.2 ⟨declared, before, after, split, ?_, ?_⟩, rfl⟩
      · intro earlier member
        exact exists_askField_eq_ok_iff.2 ⟨mapped earlier member, isNamed earlier member⟩
      · exact askField_eq_error_iff.2 (.inl ⟨cause, failed, rfl⟩)
    · rintro ⟨unnamed, member, isEmpty⟩
      obtain ⟨earlier, error, first⟩ := exists_failsFirst_iff.2 fun (each : ∀ earlier ∈ before,
          ∃ asked, askField models schemaName earlier = .ok asked) =>
        (exists_askField_eq_ok_iff.1 (each unnamed member)).2 isEmpty
      have isEmptyName : error = .emptyName .emptyName := by
        rcases askField_eq_error_iff.1 first.failed with ⟨other, unmapped, -⟩ | ⟨-, -, same⟩
        · exact absurd unmapped (exists_ok_iff.1 (mapped earlier first.mem) other)
        · exact same
      rw [makeModel_eq_error_iff, split]
      exact ⟨earlier, isEmptyName ▸ first.append _⟩

/-- Pets with properties of each kind, two of which ask for one field name. -/
def patient : Schema where
  properties := [
    ("pet-name", { type := some "string" }),
    ("Any", {}),
    ("pet_name", { type := some "string", nullable := true }),
    ("owner", { ref := some "Owner" })]
  required := ["pet-name"]

/-- With a class for owners each property has its field, under the unchanged name.  Without one the
last of them is reported. -/
theorem patient_follows_properties :
    ∃ model, Model.make (.ofSchemas ["Owner"]) "patient" patient = .ok model ∧
      model.definition.declared.map (·.1) = ["pet_name", "Any_", "pet_name_", "owner"] ∧
      model.definition.annotated.map (·.2.alias?) =
        [some "pet-name", some "Any", some "pet_name", some "owner"] ∧
      List.Forall₂ (Declares (.ofSchemas ["Owner"]) ["pet-name"]) patient.properties
        model.definition.annotated ∧
      Model.make (.ofSchemas []) "patient" patient =
        .error (.unmappable ⟨"$ref 'Owner'", .unknownSchema⟩ "patient" "owner") := by
  have makes : (Model.make (.ofSchemas ["Owner"]) "patient" patient).toOption.map
      (fun model => (model.definition.declared.map (·.1),
        model.definition.annotated.map (·.2.alias?))) =
      some (["pet_name", "Any_", "pet_name_", "owner"],
        [some "pet-name", some "Any", some "pet_name", some "owner"]) := by
    decide +kernel
  obtain ⟨model, made, same⟩ := toOption_map_eq_some_iff.1 makes
  obtain ⟨names, aliases⟩ := Prod.mk.inj same
  refine ⟨model, made, names, aliases,
    (fields_follow_properties (.ofSchemas ["Owner"]) "patient" patient).fields model made, ?_⟩
  refine makeModel_eq_error_iff.2 ⟨("owner", { ref := some "Owner" }),
    patient.properties.take 3, [], rfl, ?_, askField_eq_error_iff.2 (.inl ⟨_, rfl, rfl⟩)⟩
  simp only [patient, List.take, List.forall_mem_cons, exists_askField_eq_ok_iff]
  exact ⟨⟨⟨_, rfl⟩, by decide⟩, ⟨⟨_, rfl⟩, by decide⟩, ⟨⟨_, rfl⟩, by decide⟩, by simp⟩

/-- A property without a name stands before one of an unknown class.  That it has no name is
reported, and neither the schema nor the unknown class is. -/
theorem nameless_property_reported_first :
    (∀ mapped, (Models.ofSchemas ["pet"]).map { ref := some "Owner" } ≠ .ok mapped) ∧
      Model.make (.ofSchemas ["pet"]) "pet"
          { properties := [("", {}), ("owner", { ref := some "Owner" })] } =
        .error (.emptyName .emptyName) ∧
      (ModelError.emptyName .emptyName).fault? = none ∧
      (ModelError.emptyName .emptyName).message = "Name cannot be empty" := by
  refine ⟨?_, ?_, rfl, rfl⟩
  · intro mapped done
    cases done
  · refine makeModel_eq_error_iff.2 ⟨("", {}), [], _, rfl, List.forall_mem_nil _, ?_⟩
    exact askField_eq_error_iff.2 (.inr ⟨⟨_, rfl⟩, rfl, rfl⟩)

end Bindery.Client

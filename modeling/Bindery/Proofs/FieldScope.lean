import Bindery.Proofs.FieldNames
import Bindery.Proofs.MemberNames

/-!
# Fields that shadow nothing

A field of a model class stands beside the names that the annotations of its class read, the names
that its fields are declared with and what the base class provides.  Properties have arbitrary
names, and a field that would have one of those names is given an underscore, and one more if it
meets an earlier field.  Neither name is looked at again.  That both are free follows from no taken
name ending in an underscore, which holds of the names of classes whatever schemas are called.
-/

namespace Bindery.Client

open Bindery.Api Bindery.Code Bindery.Naming Bindery.Plan Bindery.Steps Bindery.Typing

/-! ## Names that are taken -/

theorem unmarked_of_mem_modelAttributes : ∀ name ∈ modelAttributes, Unmarked name := by
  decide +kernel

theorem unmarked_of_mem_propertyReserved {document : Document} {name : String}
    (member : name ∈ propertyReserved (.ofDocument document)) : Unmarked name :=
  unmarked_of_mem_parameterReserved (propertyReserved_subset _ member)

/-! ## Names that are given -/

/-- A name that is given is one that was asked for or its longer form. -/
theorem exists_asked_of_mem_giveAll {taken names : List String} {given : String}
    (member : given ∈ giveAll taken names) :
    ∃ name ∈ names, given = name ∨ given = name ++ "_" := by
  induction names generalizing taken with
  | nil => cases member
  | cons name rest ih =>
      rcases List.mem_cons.1 member with here | later
      · refine ⟨name, List.mem_cons_self, ?_⟩
        rw [here, give]
        split
        · exact .inr rfl
        · exact .inl rfl
      · obtain ⟨other, inRest, form⟩ := ih later
        exact ⟨other, List.mem_cons_of_mem _ inRest, form⟩

variable {document : Document} {models : List Model}

/-- A name that a field of a model class can have: it does not start with an underscore, and it is
neither an attribute of the base class, nor a name that annotations or fields are made with, nor the
name of a class.  So it is no name that its class reads. -/
structure ShadowsNothing (models : List Model) (model : Model) (name : String) : Prop where
  visible : name.toList.head? ≠ some '_'
  attributes : name ∉ modelAttributes
  annotations : name ∉ annotationBuiltins ++ annotationImports ++ modelBaseNames
  classes : name ∉ models.map (·.name)
  reads : name ∉ model.definition.globals

/-- A field has the name that a property asks for or its longer form. -/
theorem exists_member_of_declared (made : modelsOf document = .ok models) {model : Model}
    (inModels : model ∈ models) {name : String}
    (declared : name ∈ model.definition.declared.map (·.1)) :
    ∃ property asked, member property (propertyReserved (.ofDocument document)) = .ok asked ∧
      (name = asked ∨ name = asked ++ "_") := by
  obtain ⟨schema, -, done⟩ := exists_mem_of_forall₂ (mapM_eq_ok_iff.1 made) inModels
  obtain ⟨fields, there, rfl⟩ := map_eq_ok_iff.1 done
  obtain ⟨names, aligned, given⟩ := exists_asked_of_modelFields there
  rw [map_name_declared_definition, given] at declared
  obtain ⟨asked, inNames, form⟩ := exists_asked_of_mem_giveAll declared
  obtain ⟨property, -, derived⟩ := exists_mem_of_forall₂ aligned inNames
  exact ⟨property.1, asked, derived, form⟩

/-- No field has a name that is taken: the name that is asked for gives way, and the longer form is
unlike all of them. -/
theorem not_mem_of_declared (made : modelsOf document = .ok models) {model : Model}
    (inModels : model ∈ models) {name : String}
    (declared : name ∈ model.definition.declared.map (·.1)) :
    name ∉ modelAttributes ++ propertyReserved (.ofDocument document) := by
  obtain ⟨property, asked, derived, form⟩ := exists_member_of_declared made inModels declared
  intro isTaken
  have unmarked : Unmarked name := by
    rcases List.mem_append.1 isTaken with isAttribute | isReserved
    · exact unmarked_of_mem_modelAttributes name isAttribute
    · exact unmarked_of_mem_propertyReserved isReserved
  rcases form with rfl | rfl
  · exact member_ne derived (List.mem_append.1 isTaken) unmarked rfl
  · exact not_unmarked_append asked unmarked

/-- Whatever schemas and their properties are called, the fields of the model classes shadow
nothing. -/
theorem fieldNames_shadow_nothing (made : modelsOf document = .ok models) :
    ∀ model ∈ models, ∀ name ∈ model.definition.declared.map (·.1),
      ShadowsNothing models model name := by
  intro model inModels name declared
  have free := not_mem_of_declared made inModels declared
  constructor
  case visible =>
    obtain ⟨property, asked, derived, form⟩ := exists_member_of_declared made inModels declared
    have word := isWord_of_member derived
    rcases form with rfl | rfl
    · exact word.head?_ne
    · exact (word.append (by simp [isNameChar])).head?_ne
  case attributes => exact fun isAttribute => free (List.mem_append_left _ isAttribute)
  case annotations =>
    intro isFixed
    exact free (List.mem_append_right _ (List.mem_append_left _ isFixed))
  case classes =>
    rw [map_name_modelsOf made]
    intro isClass
    exact free (List.mem_append_right _ (List.mem_append_right _ isClass))
  case reads =>
    intro isRead
    refine free (List.mem_append_right _ ?_)
    rcases mem_globals_definition isRead with isBase | ⟨field, inFields, inside⟩
    · exact List.mem_append_left _ (List.mem_append_right _ isBase)
    · exact mem_propertyReserved_of_mem_annotated
        (fieldType_of_modelsOf (closed_known _) made model inModels field inFields)
        (fieldType_of_modelsOf (closed_accounted _) made model inModels field inFields) inside

/-- Visits whose properties are called like what fields stand beside, one of them with an
underscore after it. -/
def clinic : Document where
  schemas := [
    ("visit", { properties := [
      ("_id", { type := some "integer" }),
      ("list", { type := some "array", items := some { ref := some "pet" } }),
      ("Pet", { ref := some "pet" }),
      ("date", { type := some "string", format := some "date" }),
      ("copy", {}),
      ("copy_", {}),
      ("Field", {})] }),
    ("pet", {})]

/-- Every field of a visit gives way, and the two that then meet are kept apart. -/
theorem clinic_fieldNames_shadow_nothing :
    ∃ models visit, modelsOf clinic = .ok models ∧ models.head? = some visit ∧
      models.map (·.name) = ["Visit", "Pet"] ∧
      visit.definition.declared.map (·.1) =
        ["field_id", "list_", "Pet_", "date_", "copy_", "copy__", "Field_"] ∧
      "list" ∈ visit.definition.globals ∧ "Pet" ∈ visit.definition.globals ∧
      ∀ name ∈ visit.definition.declared.map (·.1), ShadowsNothing models visit name := by
  have makes : (modelsOf clinic).toOption.bind (fun models => models.head?.map fun visit =>
      (models.map (·.name), visit.definition.declared.map (·.1),
        decide ("list" ∈ visit.definition.globals), decide ("Pet" ∈ visit.definition.globals))) =
      some (["Visit", "Pet"],
        ["field_id", "list_", "Pet_", "date_", "copy_", "copy__", "Field_"], true, true) := by
    decide +kernel
  obtain ⟨models, made, shown⟩ := toOption_bind_eq_some_iff.1 makes
  obtain ⟨visit, first, same⟩ := Option.map_eq_some_iff.1 shown
  simp only [Prod.mk.injEq, decide_eq_true_eq] at same
  obtain ⟨classes, names, readsList, readsPet⟩ := same
  exact ⟨models, visit, made, first, classes, names, readsList, readsPet,
    fieldNames_shadow_nothing made visit (List.mem_of_head? first)⟩

end Bindery.Client

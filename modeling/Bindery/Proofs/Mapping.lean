import Bindery.Proofs.Steps
import Bindery.Typing.Mapper
import Mathlib.Data.List.TakeWhile

/-!
# One step of the mapping

A declared type may fill in any of its fields, and only few of them decide about its annotation: a
reference alone, else an enumeration alone, else the name of the type.  This module reads one step
of the mapping off the fields, whatever else they hold: which type it goes on with, what it can come
to, and why it can fail.
-/

namespace Bindery.Typing

open Bindery.Api Bindery.Steps

/-! ## Schemas -/

@[simp] theorem className?_ofSchemas (schemas : List String) (schema : String) :
    (Models.ofSchemas schemas).className? schema =
      if schema ∈ schemas then some (Naming.className schema) else none := by
  induction schemas with
  | nil => rfl
  | cons first rest ih =>
      simp only [Models.className?, Models.ofSchemas, List.map_cons, List.lookup_cons] at ih ⊢
      by_cases same : schema = first
      · simp [same]
      · rw [beq_eq_false_iff_ne.2 same, ih]
        simp [same]

/-- What follows the last slash of a reference, or all of it if there is none. -/
def IsLastSegment (ref segment : String) : Prop :=
  '/' ∉ segment.toList ∧ (ref = segment ∨ ∃ before, ref = before ++ "/" ++ segment)

theorem toList_target (ref : String) :
    (Models.target ref).toList = (ref.toList.reverse.takeWhile (· ≠ '/')).reverse :=
  String.toList_ofList

theorem takeWhile_ne_eq_or_exists (c : Char) (text : List Char) :
    text.takeWhile (· ≠ c) = text ∨ ∃ rest, text = text.takeWhile (· ≠ c) ++ c :: rest := by
  cases rest : text.dropWhile (· ≠ c) with
  | nil =>
      have parts := text.takeWhile_append_dropWhile (p := (· ≠ c))
      rw [rest, List.append_nil] at parts
      exact .inl parts
  | cons first more =>
      have found := List.head?_dropWhile_not (· ≠ c) text
      rw [rest] at found
      have same : first = c := by simpa using found
      refine .inr ⟨more, ?_⟩
      rw [← same] at rest ⊢
      rw [← rest, List.takeWhile_append_dropWhile]

/-- A reference names the schema that its last segment is. -/
theorem isLastSegment_iff {ref segment : String} :
    IsLastSegment ref segment ↔ Models.target ref = segment := by
  constructor
  · rintro ⟨noSlash, whole⟩
    have stays : ∀ c ∈ segment.toList.reverse, decide (c ≠ '/') = true := by
      intro c member
      refine decide_eq_true fun slash => noSlash ?_
      rwa [← slash, ← List.mem_reverse]
    rw [← String.toList_inj, toList_target, List.reverse_eq_iff]
    rcases whole with rfl | ⟨before, rfl⟩
    · exact List.takeWhile_eq_self_iff.2 stays
    · rw [String.toList_append, String.toList_append, List.reverse_append, List.reverse_append,
        List.takeWhile_append_of_pos stays]
      exact List.append_nil _
  · rintro rfl
    constructor
    · intro slash
      rw [toList_target, List.mem_reverse] at slash
      have other := List.mem_takeWhile_imp slash
      exact absurd other (by decide)
    · rcases takeWhile_ne_eq_or_exists '/' ref.toList.reverse with whole | ⟨before, parts⟩
      · refine .inl (String.toList_inj.1 ?_)
        rw [toList_target, whole, List.reverse_reverse]
      · refine .inr ⟨String.ofList before.reverse, String.toList_inj.1 ?_⟩
        rw [String.toList_append, String.toList_append, toList_target, String.toList_ofList]
        have parts := List.reverse_eq_iff.1 parts
        rw [List.reverse_append, List.reverse_cons] at parts
        exact parts

/-! ## The fields that decide -/

namespace Models

/-- The annotation of a declared type before it is widened, by the fields that decide. -/
def bare (models : Models) (type : TypeRef) : Except Unmappable Mapped :=
  match type.ref with
  | some ref =>
    match models.className? (target ref) with
    | some className => .ok (.model className)
    | none => .error ⟨type.describe, .unknownSchema⟩
  | none =>
    match type.enum.getD [] with
    | value :: values => .ok (.literal (value :: values))
    | [] =>
      match type.type with
      | none => .ok .any
      | some "array" =>
        match type.items with
        | none => .error ⟨type.describe, .arrayWithoutItems⟩
        | some inner => (models.map inner).map .listOf
      | some "object" =>
        match type.additionalProperties with
        | none => .ok (.dictOf .any)
        | some inner => (models.map inner).map .dictOf
      | some name =>
        match Primitive.find? name type.format with
        | some primitive => .ok primitive.mapped
        | none => .error ⟨type.describe, .unsupportedType⟩

/-- A declared type has the annotation that its fields decide on, widened if it may be absent. -/
theorem map_eq (models : Models) (type : TypeRef) :
    models.map type =
      (models.bare type).map fun mapped => if type.nullable then mapped.optional else mapped := by
  obtain ⟨name, format, items, values, ref, enum, nullable⟩ := type
  rw [Models.map.eq_def]
  cases enum with
  | none => rfl
  | some shown => cases shown <;> rfl

/-- Widening is no reason to fail. -/
theorem map_eq_error_iff {models : Models} {type : TypeRef} {cause : Unmappable} :
    models.map type = .error cause ↔ models.bare type = .error cause := by
  rw [map_eq, Steps.map_eq_error_iff]

end Models

/-- A declared type that its name decides about: it is no reference and no enumeration. -/
structure Named (type : TypeRef) (name : String) : Prop where
  ref : type.ref = none
  enum : type.enum.getD [] = []
  type : type.type = some name

theorem Named.unique {type : TypeRef} {name other : String} (first : Named type name)
    (second : Named type other) : name = other :=
  Option.some.inj (first.type.symm.trans second.type)

/-- The mapping goes on from an array to its items, and from an object to its values. -/
inductive Leads : TypeRef → TypeRef → Prop where
  | item {type inner : TypeRef} :
      Named type "array" → type.items = some inner → Leads type inner
  | value {type inner : TypeRef} :
      Named type "object" → type.additionalProperties = some inner → Leads type inner

/-- What holds of a declared type if it holds of all that the type leads to holds of every declared
type: no chain goes on without end. -/
theorem Leads.inductionOn {motive : TypeRef → Prop}
    (step : ∀ type, (∀ inner, Leads type inner → motive inner) → motive type) :
    (type : TypeRef) → motive type
  | ⟨_, _, items, values, _, _, _⟩ => by
      apply step
      intro inner leads
      cases leads with
      | item _ found =>
          cases items with
          | none => cases found
          | some =>
              cases found
              exact Leads.inductionOn step inner
      | value _ found =>
          cases values with
          | none => cases found
          | some =>
              cases found
              exact Leads.inductionOn step inner

/-! ## One step -/

/-- What one step of the mapping comes to, by what decides: an annotation, something wrong with the
type itself, or something wrong with the type that it leads to. -/
inductive Step (models : Models) (type : TypeRef) : Except Unmappable Mapped → Prop where
  | reference {ref className : String} :
      type.ref = some ref → models.className? (Models.target ref) = some className →
      Step models type (.ok (.model className))
  | enumeration {value : EnumValue} {values : List EnumValue} :
      type.ref = none → type.enum.getD [] = value :: values →
      Step models type (.ok (.literal (value :: values)))
  | unnamed :
      type.ref = none → type.enum.getD [] = [] → type.type = none → Step models type (.ok .any)
  | array {inner : TypeRef} {element : Mapped} :
      Named type "array" → type.items = some inner → models.map inner = .ok element →
      Step models type (.ok element.listOf)
  | object {inner : TypeRef} {value : Mapped} :
      Named type "object" → type.additionalProperties = some inner →
      models.map inner = .ok value → Step models type (.ok value.dictOf)
  | openObject :
      Named type "object" → type.additionalProperties = none →
      Step models type (.ok (.dictOf .any))
  | scalar {name : String} {primitive : Primitive} :
      Named type name → Primitive.find? name type.format = some primitive →
      Step models type (.ok primitive.mapped)
  | unknownSchema {ref : String} :
      type.ref = some ref → models.className? (Models.target ref) = none →
      Step models type (.error ⟨type.describe, .unknownSchema⟩)
  | arrayWithoutItems :
      Named type "array" → type.items = none →
      Step models type (.error ⟨type.describe, .arrayWithoutItems⟩)
  | unsupportedType {name : String} :
      Named type name → name ≠ "array" → name ≠ "object" →
      Primitive.find? name type.format = none →
      Step models type (.error ⟨type.describe, .unsupportedType⟩)
  | inside {inner : TypeRef} {cause : Unmappable} :
      Leads type inner → models.map inner = .error cause → Step models type (.error cause)

/-- Every step of the mapping comes to one of these. -/
theorem step_bare (models : Models) (type : TypeRef) : Step models type (models.bare type) := by
  simp only [Models.bare]
  split
  case h_1 ref isReference =>
    split
    case h_1 className found => exact .reference isReference found
    case h_2 nothing => exact .unknownSchema isReference nothing
  case h_2 noReference =>
    split
    case h_1 value values shown => exact .enumeration noReference shown
    case h_2 noValues =>
      split
      case h_1 nameless => exact .unnamed noReference noValues nameless
      case h_2 isArray =>
        have named : Named type "array" := ⟨noReference, noValues, isArray⟩
        split
        case h_1 nothing => exact .arrayWithoutItems named nothing
        case h_2 inner found =>
          cases done : models.map inner with
          | ok element => exact .array named found done
          | error cause => exact .inside (.item named found) done
      case h_3 isObject =>
        have named : Named type "object" := ⟨noReference, noValues, isObject⟩
        split
        case h_1 nothing => exact .openObject named nothing
        case h_2 inner found =>
          cases done : models.map inner with
          | ok value => exact .object named found done
          | error cause => exact .inside (.value named found) done
      case h_4 name noArray noObject isNamed =>
        have named : Named type name := ⟨noReference, noValues, isNamed⟩
        split
        case h_1 primitive found => exact .scalar named found
        case h_2 nothing => exact .unsupportedType named noArray noObject nothing

/-- A declared type that is mapped comes to an annotation in one step, and is mapped to that or to
that widened. -/
theorem exists_step_of_map {models : Models} {type : TypeRef} {mapped : Mapped}
    (done : models.map type = .ok mapped) :
    ∃ core, Step models type (.ok core) ∧
      (if type.nullable then core.optional else core) = mapped := by
  rw [Models.map_eq] at done
  obtain ⟨core, found, widened⟩ := map_eq_ok_iff.1 done
  exact ⟨core, found ▸ step_bare models type, widened⟩

/-- An annotation that may have been widened is the same once it is widened. -/
theorem optional_eq_of_widened {core mapped : Mapped} {nullable : Bool}
    (widened : (if nullable then core.optional else core) = mapped) :
    mapped.optional = core.optional := by
  rw [← widened]
  split
  · exact Mapped.optional_optional core
  · rfl

/-- A declared type that is not mapped fails in one step. -/
theorem step_of_map_eq_error {models : Models} {type : TypeRef} {cause : Unmappable}
    (failed : models.map type = .error cause) : Step models type (.error cause) := by
  rw [Models.map_eq_error_iff] at failed
  exact failed ▸ step_bare models type

end Bindery.Typing

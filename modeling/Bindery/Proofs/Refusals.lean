import Bindery.Proofs.Mapping

/-!
# Declared types without an annotation

The mapping of a declared type goes from type to type along one chain: from an array to its items
and from an object to its values, unless a reference or an enumeration comes before.  It fails
exactly if the chain comes to a type that stands in its way.  The failure is about that type, and
what lies beside the chain never causes one.
-/

namespace Bindery.Typing

open Bindery.Api Bindery.Steps

/-! ## The chain -/

/-- The mapping of a declared type comes to another one. -/
inductive Reaches : TypeRef → TypeRef → Prop where
  | here {type : TypeRef} : Reaches type type
  | onward {type inner node : TypeRef} :
      Leads type inner → Reaches inner node → Reaches type node

/-! ## Types that stand in the way -/

/-- The names of scalar types. -/
def scalarNames : List String := ["string", "integer", "number", "boolean"]

theorem find?_eq_none_iff {name : String} {format : Option String} :
    Primitive.find? name format = none ↔ name ∉ scalarNames := by
  unfold Primitive.find?
  split
  · split <;> simp [scalarNames]
  · simp [scalarNames]
  · simp [scalarNames]
  · simp [scalarNames]
  · simp_all [scalarNames]

/-- A declared type that has no annotation, whatever it holds beside, and why.  A format is no
reason, and a type without a name stands for any value. -/
inductive Offends (schemas : List String) : TypeRef → Reason → Prop where
  | unknownSchema {type : TypeRef} {ref schema : String} :
      type.ref = some ref → IsLastSegment ref schema → schema ∉ schemas →
      Offends schemas type .unknownSchema
  | arrayWithoutItems {type : TypeRef} :
      Named type "array" → type.items = none → Offends schemas type .arrayWithoutItems
  | unsupportedType {type : TypeRef} {name : String} :
      Named type name → name ∉ "array" :: "object" :: scalarNames →
      Offends schemas type .unsupportedType

variable {schemas : List String} {models : Models} {type inner node : TypeRef} {reason : Reason}
  {cause : Unmappable}

/-- A type that stands in the way leads nowhere. -/
theorem Offends.not_leads (offends : Offends schemas type reason) : ¬ Leads type inner := by
  rintro (⟨named, found⟩ | ⟨named, found⟩) <;>
    rcases offends with ⟨isReference, -, -⟩ | ⟨isArray, nothing⟩ | ⟨other, unknown⟩
  · simp [named.ref] at isReference
  · simp [nothing] at found
  · simp [other.unique named] at unknown
  · simp [named.ref] at isReference
  · exact absurd (isArray.unique named) (by decide)
  · simp [other.unique named] at unknown

/-- One step of the mapping fails at a type that stands in the way. -/
theorem Offends.map_eq_error (offends : Offends schemas type reason) :
    (Models.ofSchemas schemas).map type = .error ⟨type.describe, reason⟩ := by
  rw [Models.map_eq_error_iff]
  cases offends with
  | unknownSchema isReference isTarget unknown =>
      simp [Models.bare, isReference, isLastSegment_iff.1 isTarget, unknown]
  | arrayWithoutItems named nothing =>
      simp [Models.bare, named.ref, named.enum, named.type, nothing]
  | unsupportedType named unknown =>
      obtain ⟨noArray, noObject, noScalar⟩ := by simpa only [List.mem_cons, not_or] using unknown
      simp [Models.bare, named.ref, named.enum, named.type, find?_eq_none_iff.2 noScalar]

/-- What a type leads to cannot fail alone. -/
theorem Leads.map_eq_error (leads : Leads type inner) (failed : models.map inner = .error cause) :
    models.map type = .error cause := by
  rw [Models.map_eq_error_iff]
  cases leads with
  | item named found | value named found =>
      simp [Models.bare, named.ref, named.enum, named.type, found, failed, Except.map]

theorem Reaches.map_eq_error (reaches : Reaches type node)
    (failed : models.map node = .error cause) : models.map type = .error cause := by
  induction reaches with
  | here => exact failed
  | onward leads _ ih => exact leads.map_eq_error (ih failed)

/-- A step of the mapping that fails does so at a type that stands in the way, or since what the
type leads to has no annotation. -/
theorem Step.offends_or_leads (step : Step (.ofSchemas schemas) type (.error cause)) :
    (∃ reason, Offends schemas type reason ∧ cause = ⟨type.describe, reason⟩) ∨
      ∃ inner, Leads type inner ∧ (Models.ofSchemas schemas).map inner = .error cause := by
  cases step with
  | @unknownSchema ref isReference nothing =>
      have unknown : Models.target ref ∉ schemas := by simpa using nothing
      exact .inl ⟨_, .unknownSchema isReference (isLastSegment_iff.2 rfl) unknown, rfl⟩
  | arrayWithoutItems named nothing => exact .inl ⟨_, .arrayWithoutItems named nothing, rfl⟩
  | unsupportedType named noArray noObject nothing =>
      have noScalar := find?_eq_none_iff.1 nothing
      exact .inl ⟨_, .unsupportedType named (by simp [noArray, noObject, noScalar]), rfl⟩
  | inside leads failed => exact .inr ⟨_, leads, failed⟩

/-- The mapping fails only if it comes to a type that stands in the way, and it fails for what is
wrong there. -/
theorem exists_offends_of_map_eq_error (type : TypeRef) :
    (Models.ofSchemas schemas).map type = .error cause →
      ∃ node reason, Reaches type node ∧ Offends schemas node reason ∧
        cause = ⟨node.describe, reason⟩ := by
  induction type using Leads.inductionOn with
  | step type ih =>
      intro failed
      rcases (step_of_map_eq_error failed).offends_or_leads with
        ⟨reason, offends, same⟩ | ⟨inner, leads, there⟩
      · exact ⟨type, reason, .here, offends, same⟩
      · obtain ⟨node, reason, reaches, offends, same⟩ := ih inner leads there
        exact ⟨node, reason, .onward leads reaches, offends, same⟩

/-- The mapping of a declared type fails exactly if it comes to a type that stands in the way, which
is the last one that it comes to.  What is reported then describes that type and says what is wrong
with it, and names neither an operation nor a parameter.  A type whose chain has nothing in its way
has an annotation, whatever else it holds. -/
theorem map_fails_iff (schemas : List String) (type : TypeRef) :
    (∀ fault, (∃ cause, (Models.ofSchemas schemas).map type = .error cause ∧
        cause.fault = fault) ↔
      ∃ node reason, Reaches type node ∧ Offends schemas node reason ∧
        (∀ inner, ¬ Leads node inner) ∧
        fault = .unmappableType node.describe reason.message none none) ∧
    ((∃ mapped, (Models.ofSchemas schemas).map type = .ok mapped) ↔
      ∀ node, Reaches type node → ∀ reason, ¬ Offends schemas node reason) := by
  constructor
  · intro fault
    constructor
    · rintro ⟨cause, failed, rfl⟩
      obtain ⟨node, reason, reaches, offends, rfl⟩ := exists_offends_of_map_eq_error type failed
      exact ⟨node, reason, reaches, offends, fun _ => offends.not_leads, rfl⟩
    · rintro ⟨node, reason, reaches, offends, -, rfl⟩
      exact ⟨_, reaches.map_eq_error offends.map_eq_error, rfl⟩
  · constructor
    · rintro ⟨mapped, done⟩ node reaches reason offends
      rw [reaches.map_eq_error offends.map_eq_error] at done
      cases done
    · intro clear
      cases done : (Models.ofSchemas schemas).map type with
      | ok mapped => exact ⟨mapped, rfl⟩
      | error cause =>
          obtain ⟨node, reason, reaches, offends, -⟩ := exists_offends_of_map_eq_error type done
          exact absurd offends (clear node reaches reason)

/-- An array of maps to a schema that is not there, with a broken part that is passed over. -/
example : (Models.ofSchemas ["pet"]).map {
      type := some "array", additionalProperties := some { type := some "tensor" }
      items := some {
        type := some "object", nullable := true
        additionalProperties := some { ref := some "#/schemas/owner", type := some "array" } } } =
    .error ⟨"$ref '#/schemas/owner'", .unknownSchema⟩ := by
  rfl

end Bindery.Typing

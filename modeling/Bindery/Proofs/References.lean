import Bindery.Proofs.Mapping

/-!
# What references name

A reference names a schema by the schema's name, or by its place among the schemas of the
description.  What is looked up is the last segment of the reference.  For a name without a slash
the two are the same; a name with a slash is cut, and the reference comes to whatever schema is
called like the rest.
-/

namespace Bindery.Typing

open Bindery.Api Bindery.Naming Bindery.Steps

/-- The two ways in which a reference names a schema: by the schema's name, and by its place among
the schemas of the description. -/
inductive ReferenceTo (schema : String) : String → Prop where
  | byName : ReferenceTo schema schema
  | byPlace : ReferenceTo schema ("#/schemas/" ++ schema)

/-! ## Last segments -/

/-- A text is its own last segment exactly if it has no slash. -/
theorem isLastSegment_self_iff {text : String} : IsLastSegment text text ↔ '/' ∉ text.toList := by
  constructor
  · intro last
    exact last.1
  · intro noSlash
    exact ⟨noSlash, .inl rfl⟩

/-- A reference ends in the last segment of the schema's name that it names. -/
theorem ReferenceTo.isLastSegment {schema ref segment : String}
    (refers : ReferenceTo schema ref) (last : IsLastSegment schema segment) :
    IsLastSegment ref segment := by
  cases refers with
  | byName => exact last
  | byPlace =>
      constructor
      · exact last.1
      · right
        cases last.2 with
        | inl whole => exact ⟨"#/schemas", by rw [whole]; rfl⟩
        | inr parts =>
            obtain ⟨before, whole⟩ := parts
            refine ⟨"#/schemas/" ++ before, ?_⟩
            rw [whole]
            simp only [String.append_assoc]

/-! ## Looking up -/

/-- A reference is mapped to the class of the schema that its last segment is the name of. -/
theorem map_reference (schemas : List String) {ref segment : String}
    (last : IsLastSegment ref segment) :
    (Models.ofSchemas schemas).map { ref := some ref } =
      if segment ∈ schemas then .ok (.model (className segment))
      else .error ⟨TypeRef.describe { ref := some ref }, .unknownSchema⟩ := by
  rw [Models.map_eq]
  simp only [Models.bare, isLastSegment_iff.1 last, className?_ofSchemas]
  by_cases declared : segment ∈ schemas
  · simp only [if_pos declared]
    rfl
  · simp only [if_neg declared]
    rfl

theorem map_reference_eq_ok_iff (schemas : List String) {ref segment : String}
    (last : IsLastSegment ref segment) {mapped : Mapped} :
    (Models.ofSchemas schemas).map { ref := some ref } = .ok mapped ↔
      segment ∈ schemas ∧ mapped = .model (className segment) := by
  rw [map_reference schemas last]
  by_cases declared : segment ∈ schemas
  · simp [declared, eq_comm]
  · simp [declared]

/-- Model classes of different names are different annotations. -/
theorem Mapped.model_inj {first second : String} :
    Mapped.model first = Mapped.model second ↔ first = second := by
  simp [Mapped.model]

/-- A reference is mapped exactly if its last segment is the name of a schema, to the class of that
schema and to nothing else.  So it is also with a reference that names a declared schema in full.
For a schema without a slash in its name the reference comes to the schema itself.  With a slash it
comes to the schema that is called like the last segment, and to none if there is no such schema; it
gives the class of its own schema only if both classes are called the same. -/
theorem references_resolve_iff (schemas : List String) :
    (∀ ref mapped, (Models.ofSchemas schemas).map { ref := some ref } = .ok mapped ↔
      ∃ schema ∈ schemas, IsLastSegment ref schema ∧ mapped = .model (className schema)) ∧
    ∀ schema ∈ schemas, ∃ segment, IsLastSegment schema segment ∧
      (segment = schema ↔ '/' ∉ schema.toList) ∧
      ∀ ref, ReferenceTo schema ref →
        (Models.ofSchemas schemas).map { ref := some ref } =
          (if segment ∈ schemas then .ok (.model (className segment))
            else .error ⟨TypeRef.describe { ref := some ref }, .unknownSchema⟩) ∧
        ((Models.ofSchemas schemas).map { ref := some ref } = .ok (.model (className schema)) ↔
          segment ∈ schemas ∧ className segment = className schema) ∧
        ('/' ∉ schema.toList →
          (Models.ofSchemas schemas).map { ref := some ref } =
            .ok (.model (className schema))) := by
  constructor
  · intro ref mapped
    have last : IsLastSegment ref (Models.target ref) := isLastSegment_iff.2 rfl
    rw [map_reference_eq_ok_iff schemas last]
    constructor
    · intro found
      exact ⟨_, found.1, last, found.2⟩
    · intro found
      obtain ⟨schema, declared, other, same⟩ := found
      rw [isLastSegment_iff.1 other]
      exact ⟨declared, same⟩
  · intro schema declared
    have last : IsLastSegment schema (Models.target schema) := isLastSegment_iff.2 rfl
    refine ⟨Models.target schema, last, ?_, ?_⟩
    · rw [← isLastSegment_iff, isLastSegment_self_iff]
    · intro ref refers
      refine ⟨map_reference schemas (refers.isLastSegment last), ?_, ?_⟩
      · rw [map_reference_eq_ok_iff schemas (refers.isLastSegment last), Mapped.model_inj, eq_comm]
      · intro noSlash
        have whole := refers.isLastSegment (isLastSegment_self_iff.2 noSlash)
        exact (map_reference_eq_ok_iff schemas whole).2 ⟨declared, rfl⟩

/-- Both references to a schema without a slash in its name come to its class, also where another
schema is called like a part of it. -/
theorem petOwner_resolves :
    "pet-owner" ∈ ["owner", "pet-owner"] ∧ '/' ∉ "pet-owner".toList ∧
      className "pet-owner" = "PetOwner" ∧
      ∀ ref, ReferenceTo "pet-owner" ref →
        (Models.ofSchemas ["owner", "pet-owner"]).map { ref := some ref } =
          .ok (.model (className "pet-owner")) := by
  have declared : "pet-owner" ∈ ["owner", "pet-owner"] := by decide
  have noSlash : '/' ∉ "pet-owner".toList := by decide
  have called : className "pet-owner" = "PetOwner" := by decide +kernel
  obtain ⟨segment, -, -, references⟩ :=
    (references_resolve_iff ["owner", "pet-owner"]).2 "pet-owner" declared
  refine ⟨declared, noSlash, called, ?_⟩
  intro ref refers
  exact (references ref refers).2.2 noSlash

/-- A reference to a schema with a slash in its name comes to another schema, or to none. -/
theorem slashed_reference_misses :
    ReferenceTo "pets/dog" "pets/dog" ∧ className "pets/dog" = "PetsDog" ∧
      (Models.ofSchemas ["pets/dog", "dog"]).map { ref := some "pets/dog" } =
        .ok (.model "Dog") ∧
      (Models.ofSchemas ["pets/dog"]).map { ref := some "pets/dog" } =
        .error ⟨"$ref 'pets/dog'", .unknownSchema⟩ := by
  have last : IsLastSegment "pets/dog" "dog" := ⟨by decide, .inr ⟨"pets", rfl⟩⟩
  have called : className "dog" = "Dog" := by decide +kernel
  refine ⟨.byName, by decide +kernel, ?_, ?_⟩
  · rw [map_reference _ last, if_pos (by decide), called]
  · rw [map_reference _ last, if_neg (by decide)]
    rfl

end Bindery.Typing

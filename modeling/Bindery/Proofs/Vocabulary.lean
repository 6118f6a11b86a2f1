import Bindery.Proofs.Reads

/-!
# The names that annotations consist of

An annotation is put together side by side with the names that it asks to be imported and the model
classes that it mentions.  The two stay in step however deep declared types are nested: beside names
that are always there, an annotation reads what it asks for and what it mentions, and it reads all
of that.
-/

namespace Bindery.Typing

open Bindery.Api Bindery.Code Bindery.Steps

/-- An annotation that reads whatever it asks to be imported and whatever it mentions. -/
structure Mapped.Frugal (type : Mapped) : Prop where
  imports : type.imports.requested ⊆ type.expr.reads
  models : type.models ⊆ type.expr.reads

theorem closed_frugal (models : Models) : Closed models Mapped.Frugal where
  any := ⟨by decide, List.nil_subset _⟩
  literal values := by
    have reads : (Mapped.literal values).expr.reads = ["Literal"] := annotated_literal values
    constructor
    · rw [reads]
      exact List.Subset.refl ["Literal"]
    · exact List.nil_subset _
  primitive primitive := by
    cases primitive <;> exact ⟨by decide, by decide⟩
  model _ _ := ⟨List.nil_subset _, List.Subset.refl _⟩
  listOf inner frugal := by
    have reads : inner.listOf.expr.reads = "list" :: inner.expr.reads := by simp [Mapped.listOf]
    constructor
    · rw [reads]
      exact List.subset_cons_of_subset _ frugal.imports
    · rw [reads]
      exact List.subset_cons_of_subset _ frugal.models
  dictOf inner frugal := by
    have reads : inner.dictOf.expr.reads = "dict" :: "str" :: inner.expr.reads := by
      simp [Mapped.dictOf]
    constructor
    · rw [reads]
      exact List.subset_cons_of_subset _ (List.subset_cons_of_subset _ frugal.imports)
    · rw [reads]
      exact List.subset_cons_of_subset _ (List.subset_cons_of_subset _ frugal.models)
  optional type frugal := by
    have reads : type.optional.expr.reads = type.expr.reads := by
      unfold Mapped.optional
      split
      · rfl
      · simp
    constructor
    · rw [reads, Mapped.optional_imports]
      exact frugal.imports
    · rw [reads, Mapped.optional_models]
      exact frugal.models

/-- The names that are always there are all that an annotation reads beside what it asks for and
what it mentions. -/
theorem exists_builtins_of_accounted {type : Mapped} (accounted : type.Accounted)
    (frugal : type.Frugal) :
    ∃ used ⊆ annotationBuiltins, ∀ name, name ∈ type.expr.reads ↔
      name ∈ type.imports.requested ∨ name ∈ type.models ∨ name ∈ used := by
  refine ⟨annotationBuiltins.filter (· ∈ type.expr.reads), List.filter_sublist.subset,
    fun name => ?_⟩
  simp only [List.mem_filter, decide_eq_true_eq]
  constructor
  · intro member
    rcases accounted name (Expr.reads_subset_annotated _ member) with
      isBuiltin | provided | isModel
    · exact .inr (.inr ⟨isBuiltin, member⟩)
    · exact .inl provided.mem_requested
    · exact .inr (.inl isModel)
  · rintro (asked | isModel | ⟨-, member⟩)
    · exact frugal.imports asked
    · exact frugal.models isModel
    · exact member

/-- The annotation of a declared type reads, at any depth, exactly the names that it asks to be
imported, the model classes that it mentions and some of the names that are always there, and so
does the annotation widened by the absence of a value.  What it mentions are classes of schemas. -/
theorem annotation_names_iff (schemas : List String) (type : TypeRef) {mapped : Mapped}
    (done : (Models.ofSchemas schemas).map type = .ok mapped) :
    ∀ shown ∈ [mapped, mapped.optional],
      (∃ used ⊆ annotationBuiltins, ∀ name, name ∈ shown.expr.reads ↔
        name ∈ shown.imports.requested ∨ name ∈ shown.models ∨ name ∈ used) ∧
      shown.models ⊆ (Models.ofSchemas schemas).classNames := by
  have accounted := (closed_accounted _).map type done
  have frugal := (closed_frugal _).map type done
  have known := (closed_known _).map type done
  have widened := (closed_known _).optional mapped known
  simp only [List.forall_mem_cons, List.not_mem_nil, false_implies, implies_true, and_true]
  refine ⟨⟨exists_builtins_of_accounted accounted frugal, known.models⟩, ?_, widened.models⟩
  exact exists_builtins_of_accounted ((closed_accounted (.ofSchemas schemas)).optional _ accounted)
    ((closed_frugal (.ofSchemas schemas)).optional _ frugal)

/-- The names that are always there and that annotations may read. -/
example : annotationBuiltins = ["str", "bytes", "int", "float", "bool", "dict", "list"] := by
  decide

/-- Pets by name in a list, each of which may be missing. -/
def petsByName : TypeRef where
  type := some "array"
  items := some {
    type := some "object"
    additionalProperties := some { ref := some "#/schemas/pet", nullable := true } }

/-- The list of pets reads their class and three names that are always there. -/
theorem petsByName_names :
    ∃ mapped, (Models.ofSchemas ["pet"]).map petsByName = .ok mapped ∧
      mapped.optional.expr.reads = ["list", "dict", "str", "Pet"] ∧
      (∃ used ⊆ annotationBuiltins, ∀ name, name ∈ mapped.optional.expr.reads ↔
        name ∈ mapped.optional.imports.requested ∨ name ∈ mapped.optional.models ∨ name ∈ used) ∧
      mapped.optional.models ⊆ (Models.ofSchemas ["pet"]).classNames := by
  have reads : ((Models.ofSchemas ["pet"]).map petsByName).toOption.map (·.optional.expr.reads) =
      some ["list", "dict", "str", "Pet"] := by
    decide +kernel
  obtain ⟨mapped, done, reads⟩ := toOption_map_eq_some_iff.1 reads
  exact ⟨mapped, done, reads,
    annotation_names_iff ["pet"] petsByName done mapped.optional (by simp)⟩

end Bindery.Typing

import Bindery.Proofs.Mapping
import Bindery.Proofs.Resolution

/-!
# What annotations refer to

Every annotation is put together from a few kinds of annotations by lists, maps and widening, and
a property that all of these keep holds for whatever a declared type is mapped to.  The first such
property: annotations import none but the names that are known to be imported for annotations,
and mention none but the model classes of the description.
-/

namespace Bindery.Code.Imports

/-- All names that are asked for, whatever their module. -/
def requested (imports : Imports) : List String := imports.requests.flatMap (·.2)

@[simp] theorem requested_empty : requested {} = [] := rfl

@[simp] theorem requested_from_ (module : String) (names : List String) :
    (from_ module names).requested = names := by
  simp [requested, from_]

@[simp] theorem requested_append (first second : Imports) :
    (first ++ second).requested = first.requested ++ second.requested := by
  simp [requested]

@[simp] theorem requested_all (pieces : List Imports) :
    (all pieces).requested = pieces.flatMap requested := by
  simp only [requested, all, List.flatMap_assoc]
  rfl

/-- Only some names are asked for. -/
def Within (names : List String) (imports : Imports) : Prop :=
  ∀ name ∈ imports.requested, name ∈ names

namespace Within

variable {names more : List String} {first second : Imports}

theorem empty : Within names {} := by
  intro name member
  cases member

theorem from_ {module : String} (subset : more ⊆ names) : Within names (.from_ module more) := by
  intro name member
  rw [requested_from_] at member
  exact subset member

theorem all {pieces : List Imports} (each : ∀ piece ∈ pieces, piece.Within names) :
    (Imports.all pieces).Within names := by
  intro name member
  rw [requested_all] at member
  obtain ⟨piece, inPieces, inside⟩ := List.mem_flatMap.1 member
  exact each piece inPieces name inside

end Within

/-- Import statements name only what is asked for. -/
theorem mem_requested_of_mem_statements {imports : Imports} {statement : Import} {name : String}
    (member : statement ∈ imports.statements) (inside : name ∈ statement.names) :
    name ∈ imports.requested := by
  obtain ⟨module, -, rfl⟩ := List.mem_map.1 member
  obtain ⟨names, request, found⟩ := mem_names.1 inside
  exact List.mem_flatMap_of_mem request found

end Bindery.Code.Imports

namespace Bindery.Typing

open Bindery.Api Bindery.Code Bindery.Plan Bindery.Steps

/-- A property of annotations that every way of making one keeps. -/
structure Closed (models : Models) (property : Mapped → Prop) : Prop where
  any : property .any
  literal : ∀ values, property (.literal values)
  primitive : ∀ primitive : Primitive, property primitive.mapped
  model : ∀ className ∈ models.classNames, property (.model className)
  listOf : ∀ inner, property inner → property inner.listOf
  dictOf : ∀ inner, property inner → property inner.dictOf
  optional : ∀ type, property type → property type.optional

/-- The name of a schema's class is one of the class names. -/
theorem mem_classNames_of_className? {models : Models} {schema className : String}
    (found : models.className? schema = some className) : className ∈ models.classNames := by
  obtain ⟨before, after, classes, -⟩ := List.lookup_eq_some_iff.1 found
  rw [Models.classNames, classes]
  simp

/-- What a declared type is mapped to has every property that the ways of making an annotation
keep. -/
theorem Closed.map {models : Models} {property : Mapped → Prop}
    (closed : Closed models property) (type : TypeRef) :
    ∀ {mapped : Mapped}, models.map type = .ok mapped → property mapped := by
  induction type using Leads.inductionOn with
  | step type ih =>
      intro mapped done
      obtain ⟨core, step, widened⟩ := exists_step_of_map done
      have known : property core := by
        cases step with
        | reference _ found => exact closed.model _ (mem_classNames_of_className? found)
        | enumeration => exact closed.literal _
        | unnamed => exact closed.any
        | array named found element => exact closed.listOf _ (ih _ (.item named found) element)
        | object named found value => exact closed.dictOf _ (ih _ (.value named found) value)
        | openObject => exact closed.dictOf _ closed.any
        | scalar => exact closed.primitive _
      rw [← widened]
      split
      · exact closed.optional core known
      · exact known

/-! ## The annotations of an operation -/

namespace Closed

variable {models : Models} {property : Mapped → Prop} (closed : Closed models property)
include closed

theorem mapPart {operation part : String} {type : TypeRef} {mapped : Mapped}
    (done : mapPart models operation part type = .ok mapped) : property mapped :=
  closed.map type (mapError_eq_ok_iff.1 done)

theorem mapPart? {operation part : String} {type : Option TypeRef} {found : Option Mapped}
    (done : mapPart? models operation part type = .ok found) :
    ∀ mapped ∈ found, property mapped := by
  intro mapped member
  cases type with
  | none =>
      cases done
      cases member
  | some type =>
      obtain ⟨other, there, rfl⟩ := map_eq_ok_iff.1 done
      cases member
      exact closed.mapPart there

theorem parameters {operation : Operation} {types : OperationTypes}
    (mapped : mapTypes models operation = .ok types) :
    ∀ type ∈ types.parameters, property type := by
  intro type member
  obtain ⟨parameter, -, done⟩ := exists_mem_of_forall₂ (mapTypes_eq_ok_iff.1 mapped).1 member
  exact closed.mapPart done

/-- Every field of an operation's parameters has a type with the property. -/
theorem fields {operation : Operation} {types : OperationTypes}
    (mapped : mapTypes models operation = .ok types) (members : List String) :
    ∀ field ∈ fieldsOf members operation.parameters types.parameters, property field.type := by
  intro field member
  obtain ⟨⟨name, parameter, type⟩, inside, rfl⟩ := List.mem_map.1 member
  exact closed.parameters mapped type (List.of_mem_zip (List.of_mem_zip inside).2).2

/-- Every type of a plan has the property. -/
theorem types {operation : Operation} {types : OperationTypes}
    (mapped : mapTypes models operation = .ok types) (names : Names) :
    ∀ type ∈ (OperationPlan.assemble operation names types).types, property type := by
  obtain ⟨-, returnType, errorType⟩ := mapTypes_eq_ok_iff.1 mapped
  intro type member
  simp only [OperationPlan.types, OperationPlan.assemble, List.mem_append, List.map_map,
    Option.mem_toList] at member
  rcases member with (inBindings | inReturn) | inError
  · obtain ⟨field, inFields, rfl⟩ := List.mem_map.1 inBindings
    exact closed.fields mapped _ field inFields
  · exact closed.mapPart? returnType type inReturn
  · exact closed.mapPart? errorType type inError

end Closed

/-! ## Imports -/

/-- An annotation that refers to nothing but the names imported for annotations and the model
classes. -/
structure Mapped.Known (models : Models) (type : Mapped) : Prop where
  imports : type.imports.Within annotationImports
  models : type.models ⊆ models.classNames

theorem closed_known (models : Models) : Closed models (Mapped.Known models) where
  any := ⟨.from_ (by decide), List.nil_subset _⟩
  literal _ := ⟨.from_ (by decide), List.nil_subset _⟩
  primitive primitive := by
    cases primitive <;> exact ⟨fun name => by decide +revert, List.nil_subset _⟩
  model className member := ⟨.empty, by simpa [Mapped.model] using member⟩
  listOf _ known := ⟨known.imports, known.models⟩
  dictOf _ known := ⟨known.imports, known.models⟩
  optional type known := by
    constructor
    · rw [Mapped.optional_imports]
      exact known.imports
    · rw [Mapped.optional_models]
      exact known.models

end Bindery.Typing

import Bindery.Proofs.Alignment
import Bindery.Proofs.Annotations
import Bindery.Proofs.Modules

/-!
# What code asks for

While the code of an operation is put together, each of its parts asks for names from a module.
There are three kinds of requests: those that are the same for every operation, those for the
annotations of its plan, and those for the model classes that these mention.  Whatever holds of all
three kinds holds of everything that the code asks for.
-/

namespace Bindery.Client

open Bindery.Api Bindery.Code Bindery.Plan Bindery.Typing

/-- The requests that do not depend on a plan. -/
def fixedRequests : List (String × List String) := [
  ("._runtime", ["Configuration", "request_sync", "request_async"]),
  ("._runtime", ["format_collection"]), ("._runtime", ["require"]),
  ("._runtime", ["OptionsBuilder"]), ("pydantic", ["BaseModel", "ConfigDict"]),
  ("pydantic", ["Field"])]

/-- A request that the code of a plan may make. -/
inductive Requests (modelsModule : String) (plan : OperationPlan) :
    String × List String → Prop where
  | fixed {request : String × List String} :
      request ∈ fixedRequests → Requests modelsModule plan request
  | annotating {type : Mapped} {request : String × List String} :
      type ∈ plan.types → request ∈ type.imports.requests → Requests modelsModule plan request
  | modelling {type : Mapped} :
      type ∈ plan.types → type.models ≠ [] →
      Requests modelsModule plan (modelsModule, type.models)

variable {operation : Operation} {names : Names} {types : OperationTypes} {modelsModule : String}
  {plan : OperationPlan} {request : String × List String}

/-- The types of a plan's locals are those of the fields. -/
theorem mem_types_of_mem_fieldsOf {field : Field}
    (member : field ∈ fieldsOf names.members operation.parameters types.parameters) :
    field.type ∈ (OperationPlan.assemble operation names types).types := by
  simp only [OperationPlan.types, OperationPlan.assemble, List.append_assoc, List.map_map]
  exact List.mem_append_left _ (List.mem_map_of_mem member)

/-- A plan with options has the classes of these options and of their builder. -/
theorem classesOf_of_options {options : Options}
    (assembled : plan = .assemble operation names types) (found : plan.options = some options) :
    OperationCode.classesOf plan =
      [optionsClass options (.make options), builderClass (.make options)] := by
  subst assembled
  have built : (OperationPlan.assemble operation names types).builder = some (.make options) :=
    congrArg (Option.map Builder.make) found
  simp only [OperationCode.classesOf, found, built]

theorem mem_requests_all {pieces : List Imports} :
    request ∈ (Imports.all pieces).requests ↔ ∃ piece ∈ pieces, request ∈ piece.requests :=
  List.mem_flatMap

/-- The classes of an operation ask for what they are defined with and for annotations. -/
theorem requests_of_mem_classesOf (assembled : plan = .assemble operation names types)
    {piece : ClassCode} (member : piece ∈ OperationCode.classesOf plan)
    (asked : request ∈ piece.imports.requests) : Requests modelsModule plan request := by
  cases found : plan.options with
  | none => simp [OperationCode.classesOf, found] at member
  | some options =>
      have ofField {field : Field} (inFields : field ∈ options.fields)
          (asked : request ∈ field.type.imports.requests) : Requests modelsModule plan request := by
        subst assembled
        obtain ⟨name, -, rfl⟩ := Option.map_eq_some_iff.1 found
        exact .annotating (mem_types_of_mem_fieldsOf inFields) asked
      rw [classesOf_of_options assembled found] at member
      simp only [List.mem_cons, List.not_mem_nil, or_false] at member
      rcases member with rfl | rfl
      · rcases List.mem_append.1 asked with base | inFields
        · cases List.mem_singleton.1 base
          exact .fixed (by decide)
        · obtain ⟨_, ofPiece, asked⟩ := mem_requests_all.1 inFields
          obtain ⟨field, inFields, rfl⟩ := List.mem_map.1 ofPiece
          rcases List.mem_append.1 asked with annotation | description
          · rw [Field.optionalType, Mapped.optional_imports] at annotation
            exact ofField inFields annotation
          · split at description
            · cases List.mem_singleton.1 description
              exact .fixed (by decide)
            · cases description
      · rcases List.mem_append.1 asked with base | inSetters
        · cases List.mem_singleton.1 base
          exact .fixed (by decide)
        · obtain ⟨_, ofPiece, asked⟩ := mem_requests_all.1 inSetters
          obtain ⟨setter, isSetter, rfl⟩ := List.mem_map.1 ofPiece
          obtain ⟨field, inFields, rfl⟩ := List.mem_map.1 (List.mem_filter.1 isSetter).1
          exact ofField inFields asked

/-- The arguments of functions ask for annotations, in either shape. -/
theorem requests_of_mem_signatureImports (assembled : plan = .assemble operation names types)
    (asked : request ∈ (signatureImports plan.signature).requests) :
    Requests modelsModule plan request := by
  subst assembled
  obtain ⟨_, ofInput, asked⟩ := mem_requests_all.1 asked
  obtain ⟨input, inInputs, rfl⟩ := List.mem_map.1 ofInput
  cases uses : (OperationPlan.assemble operation names types).usesOptions with
  | false =>
      rw [signature_assemble_of_flat uses] at inInputs
      simp only [Signature.flat, List.cons_append, List.mem_cons, List.mem_append, List.mem_map,
        List.mem_filter] at inInputs
      rcases inInputs with rfl | ⟨field, ⟨inFields, -⟩, rfl⟩ | ⟨field, ⟨inFields, -⟩, rfl⟩
      · cases asked
      · exact .annotating (mem_types_of_mem_fieldsOf inFields) asked
      · have same := Mapped.optional_imports field.type
        exact .annotating (mem_types_of_mem_fieldsOf inFields) (same ▸ asked)
  | true =>
      obtain ⟨options, found⟩ := Option.isSome_iff_exists.1 uses
      rw [signature_assemble_of_options found] at inInputs
      simp only [Signature.ofOptions, List.mem_cons, List.not_mem_nil, or_false] at inInputs
      rcases inInputs with rfl | rfl <;> cases asked

/-- The functions of an operation ask for what they send the request with, for annotations and for
model classes. -/
theorem requests_of_mem_endpointImports (assembled : plan = .assemble operation names types)
    (asked : request ∈ (endpointImports modelsModule plan).requests) :
    Requests modelsModule plan request := by
  simp only [endpointImports, Imports.requests_append, List.mem_append] at asked
  rcases asked with (((sending | joining) | checking) | inSignature) | ofType
  · cases List.mem_singleton.1 sending
    exact .fixed (by decide)
  · split at joining
    · cases List.mem_singleton.1 joining
      exact .fixed (by decide)
    · cases joining
  · split at checking
    · cases List.mem_singleton.1 checking
      exact .fixed (by decide)
    · cases checking
  · exact requests_of_mem_signatureImports assembled inSignature
  · obtain ⟨_, ofPiece, asked⟩ := mem_requests_all.1 ofType
    obtain ⟨type, inTypes, rfl⟩ := List.mem_map.1 ofPiece
    rcases List.mem_append.1 asked with annotation | models
    · exact .annotating inTypes annotation
    · split at models
      · cases models
      · next some_model =>
          cases List.mem_singleton.1 models
          exact .modelling inTypes fun none => some_model (List.isEmpty_iff.2 none)

/-- The code of an operation makes no other requests. -/
theorem requests_of_mem_imports {code : OperationCode}
    (assembled : plan = .assemble operation names types)
    (made : OperationCode.make modelsModule plan = .ok code)
    (asked : request ∈ code.imports.requests) : Requests modelsModule plan request := by
  obtain ⟨functions, written, rfl⟩ := OperationCode.make_eq_ok_iff.1 made
  obtain ⟨keywords, -, rfl⟩ := endpoint_eq_ok_iff.1 written
  rcases List.mem_append.1 asked with inClasses | inFunctions
  · obtain ⟨_, ofPiece, asked⟩ := mem_requests_all.1 inClasses
    obtain ⟨piece, member, rfl⟩ := List.mem_map.1 ofPiece
    exact requests_of_mem_classesOf assembled member asked
  · exact requests_of_mem_endpointImports assembled inFunctions

end Bindery.Client

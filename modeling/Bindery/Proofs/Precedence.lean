import Bindery.Proofs.Alignment
import Bindery.Proofs.Verdicts

/-!
# Which error of planning comes first

The names of an operation are resolved before its types are mapped, and the types are mapped in the
order of the parameters, the result and the error.  An operation that cannot be planned is reported
with the first of these that fails: with its names whatever its types are, and with a type only when
its names are resolved and all types before it are mapped.  Nothing fails after that.  The lists
that a plan is put together from have the same length by then, and there is an options type where
one is used.
-/

namespace Bindery.Plan

open Bindery.Api Bindery.Naming Bindery.Steps Bindery.Typing

variable {setting : Setting} {models : Models} {operation : Operation}

/-- The types of an operation are mapped together if each of them has an annotation. -/
theorem exists_mapTypes_eq_ok_iff :
    (∃ types, mapTypes models operation = .ok types) ↔
      ∀ declared ∈ labelledTypes operation, ∃ mapped, models.map declared.2 = .ok mapped := by
  have each : (∃ all, (mapTypes models operation).map OperationTypes.all = .ok all) ↔
      ∀ declared ∈ labelledTypes operation, ∃ mapped,
        mapPart models operation.name declared.1 declared.2 = .ok mapped := by
    rw [← mapM_labelledTypes]
    exact exists_mapM_eq_ok_iff
  simpa [map_eq_ok_iff, mapPart, mapError_eq_ok_iff] using each

/-- When the names of an operation are resolved, only its types can keep it from being planned. -/
theorem plan_eq_error_iff_mapTypes {names : Names}
    (resolved :
      Names.resolve setting.reserved operation (setting.usesOptions operation) = .ok names)
    {error : PlanError} :
    Plan.plan setting operation = .error error ↔
      mapTypes setting.models operation = .error error := by
  rw [plan_eq_error_iff]
  constructor
  · intro fails
    cases fails with
    | nameless nameless =>
        have failed : Names.resolve setting.reserved operation (setting.usesOptions operation) =
            .error (.empty .emptyName) := resolve_eq_empty_iff.2 nameless
        rw [failed] at resolved
        cases resolved
    | collision found =>
        rw [found] at resolved
        cases resolved
    | unmappable _ unmapped => exact unmapped
  · intro unmapped
    obtain ⟨part, cause, -, rfl⟩ := mapTypes_eq_error_iff.1 unmapped
    exact .unmappable resolved unmapped

/-- Whether an operation is planned, and what is reported if it is not, by its names and by its
types in order. -/
structure Decided (setting : Setting) (operation : Operation) : Prop where
  planned : (∃ plan, Plan.plan setting operation = .ok plan) ↔
    (∃ names, Names.resolve setting.reserved operation (setting.usesOptions operation) =
      .ok names) ∧
    ∀ declared ∈ labelledTypes operation, ∃ mapped, setting.models.map declared.2 = .ok mapped
  collision : ∀ cause,
    Names.resolve setting.reserved operation (setting.usesOptions operation) = .error cause →
    ∃ collision, cause = .collision collision ∧
      Plan.plan setting operation = .error (.collision collision)
  unmappable : ∀ names,
    Names.resolve setting.reserved operation (setting.usesOptions operation) = .ok names →
    ∀ error, Plan.plan setting operation = .error error ↔
      ∃ part cause,
        FailsFirst (fun declared => setting.models.map declared.2) (labelledTypes operation) part
          cause ∧
        error = .unmappable cause operation.name part.1 ∧
        error.fault? = some (.unmappableType cause.type cause.reason.message (some operation.name)
          (some part.1))
  aligned : ∀ names types,
    Names.resolve setting.reserved operation (setting.usesOptions operation) = .ok names →
    mapTypes setting.models operation = .ok types →
    names.members.length = operation.parameters.length ∧
      types.parameters.length = operation.parameters.length ∧
      ∃ plan, arrange (setting.usesOptions operation) operation names types = .ok plan
  shape : ∀ cause, Plan.plan setting operation ≠ .error (.shape cause)

/-- Every operation that has a name, and whose parameters have names, is decided by its names first
and then by its types. -/
theorem plan_decided_in_order (setting : Setting) {operation : Operation}
    (named : Named operation) : Decided setting operation := by
  constructor
  case planned =>
    rw [← exists_mapTypes_eq_ok_iff]
    simp only [plan_eq_ok_iff, Names.resolve_eq_ok_iff]
    constructor
    · rintro ⟨_, names, types, resolved, mapped, rfl⟩
      exact ⟨⟨names, resolved⟩, types, mapped⟩
    · rintro ⟨⟨names, resolved⟩, types, mapped⟩
      exact ⟨_, names, types, resolved, mapped, rfl⟩
  case collision =>
    intro cause failed
    cases cause with
    | empty cause => exact absurd (resolve_eq_empty_iff.1 failed) named.not_nameless
    | collision collision =>
        exact ⟨collision, rfl, plan_eq_error_iff.2 (.collision failed)⟩
  case unmappable =>
    intro names resolved error
    rw [plan_eq_error_iff_mapTypes resolved, mapTypes_eq_error_iff]
    constructor
    · rintro ⟨part, cause, first, rfl⟩
      exact ⟨part, cause, first, rfl, rfl⟩
    · rintro ⟨part, cause, first, rfl, -⟩
      exact ⟨part, cause, first, rfl⟩
  case aligned =>
    intro names types resolved mapped
    have resolved := Names.resolve_eq_ok_iff.1 resolved
    have typed := length_parameters_of_mapTypes mapped
    refine ⟨resolved.length_members, typed, ?_⟩
    exact ⟨_, arrange_eq_ok resolved parameters_ne_nil_of_usesOptions typed⟩
  case shape =>
    intro cause failed
    cases plan_eq_error_iff.1 failed

/-- An operation with a parameter of an unknown class, another that lacks the type of its items, and
a result of no known type. -/
def adoptPet : Operation where
  name := "adoptPet"
  parameters := [
    { name := "pet", location := .body, type := { ref := some "Pet" } },
    { name := "owner-id", location := .query, type := { ref := some "#/schemas/Owner" } },
    { name := "visits", location := .query, type := { type := some "array" } }]
  returnType := some { type := some "tensor" }

/-- That the name of the options class is reserved is reported before any type.  Without an options
class it is the second parameter that is reported, the first whose type cannot be mapped. -/
theorem adoptPet_stops_at_owner :
    Named adoptPet ∧
    Names.resolve ["AdoptPetParams"] adoptPet true =
      .error (.collision ⟨"adoptPet", "AdoptPetParams", .reserved⟩) ∧
    Plan.plan ⟨.options, .ofSchemas ["Pet"], ["AdoptPetParams"]⟩ adoptPet =
      .error (.collision ⟨"adoptPet", "AdoptPetParams", .reserved⟩) ∧
    Plan.plan ⟨.flat, .ofSchemas ["Pet"], ["AdoptPetParams"]⟩ adoptPet =
      .error (.unmappable ⟨"$ref '#/schemas/Owner'", .unknownSchema⟩ "adoptPet" "owner-id") := by
  have named : Named adoptPet := by simp [adoptPet, Named]
  have taken : Names.resolve ["AdoptPetParams"] adoptPet true =
      .error (.collision ⟨"adoptPet", "AdoptPetParams", .reserved⟩) := by
    decide +kernel
  have free : (Names.resolve ["AdoptPetParams"] adoptPet false).toOption.isSome = true := by
    decide +kernel
  obtain ⟨names, free⟩ := isSome_toOption_iff.1 free
  have first : FailsFirst (fun declared => (Models.ofSchemas ["Pet"]).map declared.2)
      (labelledTypes adoptPet) ("owner-id", { ref := some "#/schemas/Owner" })
      ⟨"$ref '#/schemas/Owner'", .unknownSchema⟩ := by
    refine ⟨[("pet", { ref := some "Pet" })], _, rfl, ?_, rfl⟩
    simp only [List.forall_mem_singleton]
    exact ⟨_, rfl⟩
  obtain ⟨collision, same, reported⟩ :=
    (plan_decided_in_order ⟨.options, .ofSchemas ["Pet"], ["AdoptPetParams"]⟩ named).collision _
      taken
  cases same
  refine ⟨named, taken, reported, ?_⟩
  exact ((plan_decided_in_order ⟨.flat, .ofSchemas ["Pet"], ["AdoptPetParams"]⟩ named).unmappable _
    free _).2 ⟨_, _, first, rfl, rfl⟩

end Bindery.Plan

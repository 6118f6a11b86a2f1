import Bindery.Proofs.Resolution

/-!
# Why an operation cannot be planned

Planning goes through several steps that may fail, and not every error that they could return can
come up.  The parts of a plan always fit together, so what remains is a name that is taken, a type
that has no annotation, and a name that is empty.  The first two are faults that are reported about
the operation; an empty name is none.  When it comes up is said here without the steps: the
operation has no name, or a parameter has none and everything before it can be named.
-/

namespace Bindery.Plan

open Bindery.Api Bindery.Naming Bindery.Steps Bindery.Typing

/-! ## Empty names -/

/-- Only an empty name has no plain form. -/
theorem plain_eq_error_iff {name : String} {cause : EmptyName} :
    plain name = .error cause ↔ name = "" := by
  cases cause
  simp only [plain]
  split
  · next empty => simpa using empty
  · next some_character => simpa using some_character

theorem functionName_eq_error_iff {operation : String} {cause : EmptyName} :
    functionName operation = .error cause ↔ operation = "" := by
  rw [functionName, map_eq_error_iff, plain_eq_error_iff]

theorem member_eq_error_iff {name : String} {reserved : List String} {cause : EmptyName} :
    member name reserved = .error cause ↔ name = "" := by
  rw [member, map_eq_error_iff, plain_eq_error_iff]

theorem memberName_eq_error_iff {reserved : List String} {parameter : String}
    {cause : EmptyName} : memberName reserved parameter = .error cause ↔ parameter = "" :=
  member_eq_error_iff

namespace Names

variable {reserved : List String} {operation : String} {taken : List String}

theorem resolveMembers_cons_eq_ok_iff {parameter : Parameter} {rest : List Parameter}
    {members : List String} :
    resolveMembers reserved operation taken (parameter :: rest) = .ok members ↔
      ∃ name more, memberName reserved parameter.name = .ok name ∧ name ∉ taken ∧
        resolveMembers reserved operation (name :: taken) rest = .ok more ∧
        members = name :: more := by
  rw [resolveMembers]
  split
  · next cause failed => simp [failed]
  · next name derived =>
      split
      · next clash => simp [derived, clash]
      · next free =>
          rw [map_eq_ok_iff]
          simp [derived, free, eq_comm]

/-- A name is wanting among parameters if one of them has none and those before it have members. -/
theorem resolveMembers_eq_empty_iff {parameters : List Parameter} {cause : EmptyName} :
    resolveMembers reserved operation taken parameters = .error (.empty cause) ↔
      ∃ before parameter after members, parameters = before ++ parameter :: after ∧
        parameter.name = "" ∧ resolveMembers reserved operation taken before = .ok members := by
  induction parameters generalizing taken with
  | nil => simp [resolveMembers]
  | cons first rest ih =>
      constructor
      · intro failed
        rw [resolveMembers] at failed
        split at failed
        · next other found =>
            exact ⟨[], first, rest, [], rfl, memberName_eq_error_iff.1 found, rfl⟩
        · next name derived =>
            split at failed
            · cases failed
            · next free =>
                obtain ⟨before, parameter, after, members, rfl, unnamed, resolved⟩ :=
                  ih.1 (map_eq_error_iff.1 failed)
                refine ⟨first :: before, parameter, after, name :: members, rfl, unnamed, ?_⟩
                exact resolveMembers_cons_eq_ok_iff.2 ⟨name, members, derived, free, resolved, rfl⟩
      · rintro ⟨before, parameter, after, members, split, unnamed, resolved⟩
        cases before with
        | nil =>
            cases split
            rw [resolveMembers, memberName_eq_error_iff.2 unnamed]
        | cons other before =>
            cases split
            obtain ⟨name, more, derived, free, resolved, -⟩ :=
              resolveMembers_cons_eq_ok_iff.1 resolved
            rw [resolveMembers, derived]
            dsimp only
            rw [if_neg free, map_eq_error_iff]
            exact ih.2 ⟨before, parameter, after, more, rfl, unnamed, resolved⟩

end Names

/-- An operation without a name, or with a parameter without one where everything before that
parameter can be named. -/
inductive Nameless (setting : Setting) (operation : Operation) : Prop where
  | operation : operation.name = "" → Nameless setting operation
  | parameter {before after : List Parameter} {parameter : Parameter} {names : Names} :
      operation.parameters = before ++ parameter :: after → parameter.name = "" →
      Names.resolve setting.reserved { operation with parameters := before }
        (setting.usesOptions operation) = .ok names →
      Nameless setting operation

/-- Names are wanting for exactly the operations that lack one. -/
theorem resolve_eq_empty_iff {setting : Setting} {operation : Operation} {cause : EmptyName} :
    Names.resolve setting.reserved operation (setting.usesOptions operation) =
        .error (.empty cause) ↔
      Nameless setting operation := by
  constructor
  · intro failed
    rw [Names.resolve] at failed
    split at failed
    · next other found => exact .operation (functionName_eq_error_iff.1 found)
    · next function derived =>
        dsimp only at failed
        split at failed
        · cases failed
        · next nothing =>
            obtain ⟨before, parameter, after, members, split, unnamed, resolved⟩ :=
              Names.resolveMembers_eq_empty_iff.1 (map_eq_error_iff.1 failed)
            have free := Names.find?_taken_eq_none_iff.1 nothing
            have named : Names.resolve setting.reserved { operation with parameters := before }
                (setting.usesOptions operation) =
                  .ok { Names.heading operation (setting.usesOptions operation) function with
                    members := members } :=
              Names.resolve_eq_ok_iff.2 ⟨derived, rfl, free, resolved⟩
            exact .parameter split unnamed named
  · rintro (unnamed | ⟨split, unnamed, resolved⟩)
    · rw [Names.resolve, functionName_eq_error_iff.2 unnamed]
    · obtain ⟨derived, heading, free, members⟩ := Names.resolve_eq_ok_iff.1 resolved
      have nothing := Names.find?_taken_eq_none_iff.2 free
      rw [heading, Names.moduleNames_withMembers] at nothing
      simp only [Names.heading] at nothing
      simp only [Names.resolve]
      rw [derived]
      dsimp only
      rw [nothing]
      dsimp only
      rw [map_eq_error_iff, Names.resolveMembers_eq_empty_iff]
      exact ⟨_, _, _, _, split, unnamed, members⟩

/-! ## Annotations -/

/-- The declared types of an operation, each under the name that a report gives it. -/
def labelledTypes (operation : Operation) : List (String × TypeRef) :=
  operation.parameters.map (fun parameter => (parameter.name, parameter.type)) ++
    operation.returnType.toList.map (fun type => ("return type", type)) ++
    operation.errorType.toList.map (fun type => ("error type", type))

/-- All annotations of an operation, in the order in which they are mapped. -/
def OperationTypes.all (types : OperationTypes) : List Mapped :=
  types.parameters ++ types.returnType.toList ++ types.errorType.toList

theorem mapM_toList_map (models : Models) (operation part : String) (type : Option TypeRef) :
    (type.toList.map fun type => (part, type)).mapM
        (fun declared => mapPart models operation declared.1 declared.2) =
      (mapPart? models operation part type).map Option.toList := by
  cases type with
  | none => rfl
  | some type =>
      simp only [Option.toList, List.map_cons, List.map_nil, List.mapM_cons, List.mapM_nil,
        mapPart?]
      cases mapPart models operation part type <;> rfl

theorem mapM_labelledTypes (models : Models) (operation : Operation) :
    (labelledTypes operation).mapM
        (fun declared => mapPart models operation.name declared.1 declared.2) =
      (mapTypes models operation).map OperationTypes.all := by
  rw [labelledTypes, List.mapM_append, List.mapM_append, List.mapM_map, mapM_toList_map,
    mapM_toList_map, mapTypes]
  simp only [Function.comp_def]
  cases operation.parameters.mapM fun parameter : Parameter =>
      mapPart models operation.name parameter.name parameter.type with
  | error => rfl
  | ok parameters =>
      cases mapPart? models operation.name "return type" operation.returnType with
      | error => rfl
      | ok returnType =>
          cases mapPart? models operation.name "error type" operation.errorType <;> rfl

/-- A part of an operation without an annotation is reported with the operation and the part: the
first of its declared types that has none. -/
theorem mapTypes_eq_error_iff {models : Models} {operation : Operation} {error : PlanError} :
    mapTypes models operation = .error error ↔
      ∃ part cause,
        FailsFirst (fun declared => models.map declared.2) (labelledTypes operation) part cause ∧
          error = .unmappable cause operation.name part.1 := by
  have all : (mapTypes models operation).map OperationTypes.all = .error error ↔
      mapTypes models operation = .error error := map_eq_error_iff
  rw [← all, ← mapM_labelledTypes, mapM_eq_error_iff]
  simp only [mapPart, failsFirst_mapError_iff, eq_comm (b := error)]

/-! ## Errors of planning -/

/-- Why an operation cannot be planned: it lacks a name, a name is taken, or a part has no
annotation.  The parts of a plan always fit together. -/
inductive Fails (setting : Setting) (operation : Operation) : PlanError → Prop where
  | nameless : Nameless setting operation → Fails setting operation (.emptyName .emptyName)
  | collision {collision : Collision} :
      Names.resolve setting.reserved operation (setting.usesOptions operation) =
        .error (.collision collision) →
      Fails setting operation (.collision collision)
  | unmappable {names : Names} {cause : Unmappable} {part : String} :
      Names.resolve setting.reserved operation (setting.usesOptions operation) = .ok names →
      mapTypes setting.models operation = .error (.unmappable cause operation.name part) →
      Fails setting operation (.unmappable cause operation.name part)

/-- These are all errors of planning, and each comes up. -/
theorem plan_eq_error_iff {setting : Setting} {operation : Operation} {error : PlanError} :
    Plan.plan setting operation = .error error ↔ Fails setting operation error := by
  simp only [Plan.plan]
  constructor
  · intro failed
    rcases bind_eq_error_iff.1 failed with unresolved | ⟨names, resolved, failed⟩
    · obtain ⟨cause, found, rfl⟩ := mapError_eq_error_iff.1 unresolved
      cases cause with
      | empty cause => exact .nameless (resolve_eq_empty_iff.1 found)
      | collision collision => exact .collision found
    · have resolved := mapError_eq_ok_iff.1 resolved
      rcases bind_eq_error_iff.1 failed with unmapped | ⟨types, mapped, failed⟩
      · obtain ⟨part, cause, -, rfl⟩ := mapTypes_eq_error_iff.1 unmapped
        exact .unmappable resolved unmapped
      · have arranged := arrange_eq_ok (Names.resolve_eq_ok_iff.1 resolved)
          parameters_ne_nil_of_usesOptions (length_parameters_of_mapTypes mapped)
        rw [mapError_eq_error_iff, arranged] at failed
        obtain ⟨cause, impossible, -⟩ := failed
        cases impossible
  · intro fails
    cases fails with
    | nameless nameless =>
        have unresolved : Names.resolve setting.reserved operation
            (setting.usesOptions operation) = .error (.empty .emptyName) :=
          resolve_eq_empty_iff.2 nameless
        exact bind_eq_error_iff.2 (.inl (mapError_eq_error_iff.2 ⟨_, unresolved, rfl⟩))
    | collision found =>
        exact bind_eq_error_iff.2 (.inl (mapError_eq_error_iff.2 ⟨_, found, rfl⟩))
    | unmappable resolved unmapped =>
        refine bind_eq_error_iff.2 (.inr ⟨_, mapError_eq_ok_iff.2 resolved, ?_⟩)
        exact bind_eq_error_iff.2 (.inl unmapped)

/-- An error of planning is no fault that is reported about the operation if it is for want of a
name, and only then. -/
theorem fault?_eq_none_iff {setting : Setting} {operation : Operation} {error : PlanError}
    (failed : Plan.plan setting operation = .error error) :
    error.fault? = none ↔ Nameless setting operation := by
  constructor
  · intro noFault
    cases plan_eq_error_iff.1 failed with
    | nameless nameless => exact nameless
    | collision => cases noFault
    | unmappable => cases noFault
  · intro nameless
    rw [plan_eq_error_iff.2 (.nameless nameless)] at failed
    cases failed
    rfl

end Bindery.Plan

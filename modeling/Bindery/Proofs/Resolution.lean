import Bindery.Plan.OperationPlan
import Bindery.Proofs.Steps

/-!
# What the plan of an operation consists of

Deriving names and planning an operation go through several steps, each of which may end them.
The two characterizations of this module say what is known once they have succeeded, and that
nothing else is needed: later arguments about plans start from them and not from the steps.
-/

namespace Bindery.Plan

open Bindery.Api Bindery.Steps Bindery.Typing

/-! ## Names -/

namespace Names

/-- The names of an operation's code before its members are known. -/
def heading (operation : Operation) (usesOptions : Bool) (function : String) : Names :=
  let options := if usesOptions then some (Naming.optionsClass operation.name) else none
  ⟨operation.name, function, "a" ++ function, options, options.map Naming.builderClass, []⟩

@[simp] theorem moduleNames_withMembers (names : Names) (members : List String) :
    { names with members := members }.moduleNames = names.moduleNames := rfl

/-- None of the names at the top of the module is taken. An empty name does not count. -/
def Free (reserved : List String) (names : Names) : Prop :=
  ∀ name ∈ names.moduleNames, name ≠ "" → name ∉ reserved

/-- What the names of an operation's code are derived from. -/
structure Resolved (reserved : List String) (operation : Operation) (usesOptions : Bool)
    (names : Names) : Prop where
  function : functionName operation.name = .ok names.function
  heading : names = { heading operation usesOptions names.function with members := names.members }
  free : names.Free reserved
  members : resolveMembers reserved operation.name [] operation.parameters = .ok names.members

/-- None of some names is found to be taken if none but the empty one is reserved. -/
theorem find?_taken_eq_none {reserved derived : List String} :
    (derived.find? fun name => ! name.isEmpty && decide (name ∈ reserved)) = none ↔
      ∀ name ∈ derived, name ≠ "" → name ∉ reserved := by
  rw [List.find?_eq_none]
  refine forall₂_congr fun name _ => ?_
  rw [Bool.and_eq_true, Bool.not_eq_true', String.isEmpty_eq_false_iff, decide_eq_true_eq,
    not_and]

theorem find?_taken_eq_none_iff {reserved : List String} {names : Names} :
    (names.moduleNames.find? fun name => ! name.isEmpty && decide (name ∈ reserved)) = none ↔
      names.Free reserved := find?_taken_eq_none

/-- The names that are resolved are exactly those that are derived from the operation, keep clear
of the reserved ones and have distinct members. -/
theorem resolve_eq_ok_iff {reserved : List String} {operation : Operation} {usesOptions : Bool}
    {names : Names} :
    resolve reserved operation usesOptions = .ok names ↔
      Resolved reserved operation usesOptions names := by
  constructor
  · intro resolved
    rw [resolve] at resolved
    split at resolved
    · cases resolved
    · next function derived =>
        dsimp only at resolved
        split at resolved
        · cases resolved
        · next nothing =>
            have free := find?_taken_eq_none_iff.1 nothing
            cases found : resolveMembers reserved operation.name [] operation.parameters with
            | error cause =>
                rw [found] at resolved
                cases resolved
            | ok members =>
                rw [found] at resolved
                cases resolved
                exact ⟨derived, rfl, free, found⟩
  · rintro ⟨derived, shape, free, found⟩
    simp only [resolve]
    rw [derived]
    dsimp only
    have nothing := find?_taken_eq_none_iff.2 free
    rw [shape, moduleNames_withMembers] at nothing
    simp only [Names.heading] at nothing
    rw [nothing, found]
    exact congrArg Except.ok shape.symm

end Names

/-- The names of an operation in a setting. -/
theorem resolveNames_eq_ok_iff {setting : Setting} {operation : Operation} {names : Names} :
    resolveNames setting operation = .ok names ↔
      names.Resolved setting.reserved operation (setting.usesOptions operation) := by
  rw [← Names.resolve_eq_ok_iff]
  simp only [resolveNames]
  cases Names.resolve setting.reserved operation (setting.usesOptions operation) with
  | error cause => cases cause <;> simp [Except.mapError]
  | ok found => simp [Except.mapError]

theorem Names.Resolved.optionsClass {reserved : List String} {operation : Operation}
    {usesOptions : Bool} {names : Names}
    (resolved : names.Resolved reserved operation usesOptions) :
    names.optionsClass =
      if usesOptions then some (Naming.optionsClass operation.name) else none := by
  rw [resolved.heading]
  rfl

/-- The members that are resolved belong to the parameters, each to the one at its position. -/
theorem forall₂_memberName {reserved : List String} {operation : String} {taken : List String}
    {parameters : List Parameter} {members : List String}
    (resolved : Names.resolveMembers reserved operation taken parameters = .ok members) :
    List.Forall₂ (fun parameter member => memberName reserved parameter.name = .ok member)
      parameters members := by
  -- The names that are taken grow along the list, but no name depends on them.
  induction parameters generalizing taken members with
  | nil =>
      cases resolved
      exact .nil
  | cons parameter rest ih =>
      rw [Names.resolveMembers] at resolved
      split at resolved
      · cases resolved
      · next name derived =>
          split at resolved
          · cases resolved
          · obtain ⟨more, later, rfl⟩ := map_eq_ok_iff.1 resolved
            exact .cons derived (ih later)

theorem Names.Resolved.length_members {reserved : List String} {operation : Operation}
    {usesOptions : Bool} {names : Names}
    (resolved : names.Resolved reserved operation usesOptions) :
    names.members.length = operation.parameters.length :=
  (forall₂_memberName resolved.members).length_eq.symm

/-! ## Types -/

/-- What the annotations of an operation come from. -/
theorem mapTypes_eq_ok_iff {models : Models} {operation : Operation} {types : OperationTypes} :
    mapTypes models operation = .ok types ↔
      List.Forall₂ (fun parameter type =>
          mapPart models operation.name parameter.name parameter.type = .ok type)
        operation.parameters types.parameters ∧
      mapPart? models operation.name "return type" operation.returnType = .ok types.returnType ∧
      mapPart? models operation.name "error type" operation.errorType = .ok types.errorType := by
  constructor
  · intro mapped
    obtain ⟨parameters, first, mapped⟩ := bind_eq_ok_iff.1 mapped
    obtain ⟨returnType, second, mapped⟩ := bind_eq_ok_iff.1 mapped
    obtain ⟨errorType, third, mapped⟩ := bind_eq_ok_iff.1 mapped
    cases mapped
    exact ⟨mapM_eq_ok_iff.1 first, second, third⟩
  · rintro ⟨first, second, third⟩
    refine bind_eq_ok_iff.2 ⟨_, mapM_eq_ok_iff.2 first, ?_⟩
    exact bind_eq_ok_iff.2 ⟨_, second, bind_eq_ok_iff.2 ⟨_, third, rfl⟩⟩

/-- Every parameter has one annotation. -/
theorem length_parameters_of_mapTypes {models : Models} {operation : Operation}
    {types : OperationTypes} (mapped : mapTypes models operation = .ok types) :
    types.parameters.length = operation.parameters.length :=
  (mapTypes_eq_ok_iff.1 mapped).1.length_eq.symm

/-! ## Plans -/

/-- The fields of parameters that have as many names and types. -/
def fieldsOf (members : List String) (parameters : List Parameter) (types : List Mapped) :
    List Field :=
  (members.zip (parameters.zip types)).map fun (name, parameter, type) => ⟨name, parameter, type⟩

theorem alignFields_eq_ok {members : List String} {parameters : List Parameter}
    {types : List Mapped} (named : members.length = parameters.length)
    (typed : types.length = parameters.length) :
    alignFields members parameters types = .ok (fieldsOf members parameters types) := by
  fun_induction alignFields members parameters types with
  | case1 name members parameter parameters type types ih =>
      rw [ih (Nat.succ.inj named) (Nat.succ.inj typed)]
      rfl
  | case2 => rfl
  | case3 => cases named
  | case4 => cases named
  | case5 => cases typed
  | case6 => cases typed

/-- The options type of an operation with names and annotations that are known. The names tell
whether there is one. -/
def optionsOf (operation : Operation) (names : Names) (types : OperationTypes) :
    Option Options :=
  names.optionsClass.map fun name =>
    ⟨name, operation.name, fieldsOf names.members operation.parameters types.parameters⟩

/-- The plan of an operation with names and annotations that are known. -/
def OperationPlan.assemble (operation : Operation) (names : Names) (types : OperationTypes) :
    OperationPlan :=
  let fields := fieldsOf names.members operation.parameters types.parameters
  let options := optionsOf operation names types
  { operation := operation
    names := names
    signature := options.elim (.flat fields) .ofOptions
    bindings := fields.map (·.binding (if options.isSome then .options else .argument))
    options := options
    builder := options.map Builder.make
    returnType := types.returnType
    errorType := types.errorType }

/-- Once names and annotations of an operation are known, nothing stands in the way of its
plan. -/
theorem arrange_eq_ok {reserved : List String} {operation : Operation} {usesOptions : Bool}
    {names : Names} {types : OperationTypes}
    (resolved : names.Resolved reserved operation usesOptions)
    (gathered : usesOptions = true → operation.parameters ≠ [])
    (aligned : types.parameters.length = operation.parameters.length) :
    arrange usesOptions operation names types = .ok (.assemble operation names types) := by
  have fields := alignFields_eq_ok resolved.length_members aligned
  have optionsClass := resolved.optionsClass
  cases usesOptions with
  | false =>
      have noOptions : optionsOf operation names types = none := by
        rw [optionsOf, optionsClass]
        rfl
      simp only [arrange, OperationPlan.assemble]
      rw [noOptions]
      simp [Shape.make, CallPlan.make, fields, bind, Except.bind, pure, Except.pure, Except.map]
  | true =>
      have some_parameter : operation.parameters.isEmpty = false :=
        List.isEmpty_eq_false_iff.2 (gathered rfl)
      have someOptions : optionsOf operation names types =
          some ⟨Naming.optionsClass operation.name, operation.name,
            fieldsOf names.members operation.parameters types.parameters⟩ := by
        rw [optionsOf, optionsClass]
        rfl
      simp only [arrange, OperationPlan.assemble]
      rw [someOptions]
      simp [Options.make, some_parameter, optionsClass, fields, Shape.make, CallPlan.make, bind,
        Except.bind, pure, Except.pure, Except.map]

theorem parameters_ne_nil_of_usesOptions {setting : Setting} {operation : Operation}
    (uses : setting.usesOptions operation = true) : operation.parameters ≠ [] := by
  intro none_there
  simp [Setting.usesOptions, gathers, none_there] at uses

/-- An operation can be planned if its names can be derived and its types mapped, and its plan is
then put together from both. -/
theorem plan_eq_ok_iff {setting : Setting} {operation : Operation} {plan : OperationPlan} :
    Plan.plan setting operation = .ok plan ↔
      ∃ names types,
        names.Resolved setting.reserved operation (setting.usesOptions operation) ∧
        mapTypes setting.models operation = .ok types ∧
        plan = .assemble operation names types := by
  simp only [Plan.plan]
  constructor
  · intro planned
    obtain ⟨names, resolved, planned⟩ := bind_eq_ok_iff.1 planned
    obtain ⟨types, mapped, planned⟩ := bind_eq_ok_iff.1 planned
    have resolved := resolveNames_eq_ok_iff.1 resolved
    rw [mapError_eq_ok_iff, arrange_eq_ok resolved parameters_ne_nil_of_usesOptions
      (length_parameters_of_mapTypes mapped)] at planned
    cases planned
    exact ⟨names, types, resolved, mapped, rfl⟩
  · rintro ⟨names, types, resolved, mapped, rfl⟩
    refine bind_eq_ok_iff.2 ⟨names, resolveNames_eq_ok_iff.2 resolved, ?_⟩
    refine bind_eq_ok_iff.2 ⟨types, mapped, mapError_eq_ok_iff.2 ?_⟩
    exact arrange_eq_ok resolved parameters_ne_nil_of_usesOptions
      (length_parameters_of_mapTypes mapped)

/-- The plan of an operation is about that operation. -/
theorem operation_of_plan {setting : Setting} {operation : Operation} {plan : OperationPlan}
    (planned : Plan.plan setting operation = .ok plan) : plan.operation = operation := by
  obtain ⟨names, types, -, -, rfl⟩ := plan_eq_ok_iff.1 planned
  rfl

end Bindery.Plan

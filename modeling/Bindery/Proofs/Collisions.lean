import Bindery.Proofs.Requests
import Bindery.Proofs.Verdicts

/-!
# Names that collide

The names of an operation are derived one after the other, and the first that is taken ends this.
Which it is, and when there is one, is said here of the names themselves: a name at the top of the
module collides if it is reserved, and a member if an earlier parameter has it already.  The names
of classes are compared for operations that get classes only.
-/

namespace Bindery.Plan

open Bindery.Api Bindery.Naming Bindery.Steps

/-! ## Members that repeat -/

/-- The first name that repeats one before it, or one of those that are taken already, stands after
others that do not. -/
structure Repeats (taken names before : List String) (name : String) : Prop where
  stands : ∃ after, names = before ++ name :: after
  distinct : before.Nodup
  apart : ∀ other ∈ before, other ∉ taken
  again : name ∈ before ∨ name ∈ taken

section Repeats

variable {taken names before : List String} {name first : String}

theorem not_repeats_nil : ¬ Repeats taken [] before name := by
  rintro ⟨⟨after, stands⟩, -⟩
  simp at stands

/-- The first name repeats if it is taken, and if not, the others repeat with it taken too. -/
theorem repeats_cons_iff :
    Repeats taken (first :: names) before name ↔
      (first ∈ taken ∧ before = [] ∧ name = first) ∨
        (first ∉ taken ∧
          ∃ rest, before = first :: rest ∧ Repeats (first :: taken) names rest name) := by
  constructor
  · rintro ⟨⟨after, stands⟩, distinct, apart, again⟩
    cases before with
    | nil =>
        cases stands
        exact .inl ⟨again.resolve_left List.not_mem_nil, rfl, rfl⟩
    | cons other rest =>
        obtain ⟨rfl, rfl⟩ := List.cons.inj stands
        obtain ⟨fresh, distinct⟩ := List.nodup_cons.1 distinct
        obtain ⟨free, apart⟩ := List.forall_mem_cons.1 apart
        refine .inr ⟨free, rest, rfl, ⟨after, rfl⟩, distinct, ?_, ?_⟩
        · intro other member known
          rcases List.mem_cons.1 known with rfl | isTaken
          · exact fresh member
          · exact apart other member isTaken
        · simpa [or_assoc, or_left_comm] using again
  · rintro (⟨isTaken, rfl, rfl⟩ | ⟨free, rest, rfl, ⟨after, rfl⟩, distinct, apart, again⟩)
    · exact ⟨⟨names, rfl⟩, List.nodup_nil, by simp, .inr isTaken⟩
    · refine ⟨⟨after, rfl⟩, List.nodup_cons.2 ⟨?_, distinct⟩, ?_, ?_⟩
      · intro member
        exact apart first member List.mem_cons_self
      · refine List.forall_mem_cons.2 ⟨free, fun other member isTaken => ?_⟩
        exact apart other member (List.mem_cons_of_mem first isTaken)
      · simpa [or_assoc, or_left_comm] using again

/-- Names of which one repeats another are not all different. -/
theorem Repeats.not_nodup (repeats : Repeats [] names before name) : ¬ names.Nodup := by
  obtain ⟨⟨after, rfl⟩, -, -, again⟩ := repeats
  intro distinct
  have member := again.resolve_right List.not_mem_nil
  exact List.nodup_append.1 distinct |>.2.2 name member name List.mem_cons_self rfl

end Repeats

section Members

variable {reserved : List String} {operation : String} {parameters : List Parameter}
  {members : List String}

/-- Parameters that have their names have members. -/
theorem exists_members (reserved : List String)
    (named : ∀ parameter ∈ parameters, parameter.name ≠ "") :
    ∃ members, List.Forall₂
      (fun parameter member => memberName reserved parameter.name = .ok member)
      parameters members := by
  have each : ∀ parameter ∈ parameters, ∃ member,
      memberName reserved parameter.name = .ok member := by
    intro parameter inParameters
    refine exists_ok_iff.2 fun cause failed => ?_
    exact named parameter inParameters (memberName_eq_error_iff.1 failed)
  obtain ⟨members, done⟩ := exists_mapM_eq_ok_iff.2 each
  exact ⟨members, mapM_eq_ok_iff.1 done⟩

variable (aligned : List.Forall₂
  (fun parameter member => memberName reserved parameter.name = .ok member) parameters members)
include aligned

/-- Resolving members fails at the first that repeats another. -/
theorem resolveMembers_eq_error_iff {taken : List String} {error : NamesError} :
    Names.resolveMembers reserved operation taken parameters = .error error ↔
      ∃ before name parameter, Repeats taken members before name ∧
        parameters[before.length]? = some parameter ∧
        error = .collision ⟨operation, name, .parameter parameter.name⟩ := by
  induction aligned generalizing taken with
  | nil => simp [Names.resolveMembers, not_repeats_nil]
  | @cons parameter member rest members derived aligned ih =>
      rw [Names.resolveMembers, derived]
      dsimp only
      split
      · next isTaken =>
          constructor
          · rintro ⟨⟩
            exact ⟨[], member, parameter, repeats_cons_iff.2 (.inl ⟨isTaken, rfl, rfl⟩), rfl, rfl⟩
          · rintro ⟨before, name, other, repeats, found, rfl⟩
            obtain ⟨-, rfl, rfl⟩ | ⟨free, -⟩ := repeats_cons_iff.1 repeats
            · cases found
              rfl
            · exact absurd isTaken free
      · next free =>
          rw [map_eq_error_iff, ih]
          constructor
          · rintro ⟨before, name, other, repeats, found, rfl⟩
            exact ⟨member :: before, name, other,
              repeats_cons_iff.2 (.inr ⟨free, before, rfl, repeats⟩), found, rfl⟩
          · rintro ⟨before, name, other, repeats, found, rfl⟩
            obtain ⟨isTaken, -⟩ | ⟨-, rest, rfl, later⟩ := repeats_cons_iff.1 repeats
            · exact absurd isTaken free
            · exact ⟨rest, name, other, later, found, rfl⟩

/-- Members are resolved if they are all different. -/
theorem resolveMembers_eq_ok_iff {found : List String} :
    Names.resolveMembers reserved operation [] parameters = .ok found ↔
      found = members ∧ members.Nodup := by
  have unique : Relator.RightUnique fun (parameter : Parameter) (member : String) =>
      memberName reserved parameter.name = .ok member := by
    intro parameter first second derived same
    exact Except.ok.inj (derived.symm.trans same)
  have same {found : List String}
      (resolved : Names.resolveMembers reserved operation [] parameters = .ok found) :
      found = members :=
    List.right_unique_forall₂' unique (forall₂_memberName resolved) aligned
  constructor
  · intro resolved
    cases same resolved
    exact ⟨rfl, (nodup_of_resolveMembers resolved).1⟩
  · rintro ⟨rfl, distinct⟩
    cases resolved : Names.resolveMembers reserved operation [] parameters with
    | error error =>
        obtain ⟨before, name, -, repeats, -⟩ := (resolveMembers_eq_error_iff aligned).1 resolved
        exact absurd distinct repeats.not_nodup
    | ok found => rw [same resolved]

/-- Reserved names matter for members only in what they make of them. -/
theorem resolveMembers_congr {others taken : List String}
    (same : List.Forall₂ (fun parameter member => memberName others parameter.name = .ok member)
      parameters members) :
    Names.resolveMembers others operation taken parameters =
      Names.resolveMembers reserved operation taken parameters := by
  induction aligned generalizing taken with
  | nil => rfl
  | cons derived _ ih =>
      cases same with
      | cons first later =>
          rw [Names.resolveMembers, Names.resolveMembers, derived, first]
          dsimp only
          rw [ih later]

end Members

/-! ## Names that are taken -/

/-- The names that the code of an operation needs at the top of its module, given that of its
function. -/
def derivedNames (operation : String) (usesOptions : Bool) (function : String) : List String :=
  [function, "a" ++ function] ++
    if usesOptions then [optionsClass operation, builderClass (optionsClass operation)] else []

/-- The first of some names that is reserved stands after others that are not. -/
theorem find?_taken_eq_some_iff {reserved derived : List String} {identifier : String} :
    (derived.find? fun name => ! name.isEmpty && decide (name ∈ reserved)) = some identifier ↔
      ∃ before after, derived = before ++ identifier :: after ∧ identifier ≠ "" ∧
        identifier ∈ reserved ∧ ∀ name ∈ before, name ≠ "" → name ∉ reserved := by
  rw [List.find?_eq_some_iff_append]
  constructor
  · rintro ⟨isTaken, before, after, split, free⟩
    refine ⟨before, after, split, ?_⟩
    simpa [and_assoc, or_iff_not_imp_left] using And.intro isTaken free
  · rintro ⟨before, after, split, nonempty, isReserved, free⟩
    refine ⟨by simp [nonempty, isReserved], before, after, split, ?_⟩
    simpa [or_iff_not_imp_left] using free

/-- A collision of an operation whose names are known: the first of the derived names that is
reserved, or else the first member that an earlier parameter has. -/
inductive Collides (reserved : List String) (operation : Operation)
    (derived members : List String) : Collision → Prop where
  | reserved {before after : List String} {identifier : String} :
      derived = before ++ identifier :: after → identifier ≠ "" → identifier ∈ reserved →
      (∀ name ∈ before, name ≠ "" → name ∉ reserved) →
      Collides reserved operation derived members ⟨operation.name, identifier, .reserved⟩
  | parameter {before after : List String} {identifier : String} {parameter : Parameter} :
      (∀ name ∈ derived, name ≠ "" → name ∉ reserved) →
      members = before ++ identifier :: after → before.Nodup → identifier ∈ before →
      operation.parameters[before.length]? = some parameter →
      Collides reserved operation derived members
        ⟨operation.name, identifier, .parameter parameter.name⟩

section Derived

variable {reserved : List String} {operation : Operation} {usesOptions : Bool} {function : String}
  {members : List String} (named : functionName operation.name = .ok function)
include named

/-- Once the name of the function is known, what is left is to compare names. -/
theorem resolve_of_functionName :
    Names.resolve reserved operation usesOptions =
      match (derivedNames operation.name usesOptions function).find? fun name =>
        ! name.isEmpty && decide (name ∈ reserved) with
      | some identifier => .error (.collision ⟨operation.name, identifier, .reserved⟩)
      | none =>
        (Names.resolveMembers reserved operation.name [] operation.parameters).map fun members =>
          { Names.heading operation usesOptions function with members := members } := by
  simp only [Names.resolve]
  rw [named]
  cases usesOptions <;> rfl

variable (aligned : List.Forall₂
  (fun parameter member => memberName reserved parameter.name = .ok member)
  operation.parameters members)
include aligned

/-- Resolving the names of an operation whose names can be derived fails for a collision, and for
each collision that it has. -/
theorem resolve_eq_error_iff {error : NamesError} :
    Names.resolve reserved operation usesOptions = .error error ↔
      ∃ collision, error = .collision collision ∧
        Collides reserved operation (derivedNames operation.name usesOptions function) members
          collision := by
  rw [resolve_of_functionName named]
  cases found : (derivedNames operation.name usesOptions function).find? fun name =>
      ! name.isEmpty && decide (name ∈ reserved) with
  | some identifier =>
      constructor
      · rintro ⟨⟩
        obtain ⟨before, after, split, nonempty, isReserved, free⟩ :=
          find?_taken_eq_some_iff.1 found
        exact ⟨_, rfl, .reserved split nonempty isReserved free⟩
      · rintro ⟨_, rfl, collides⟩
        cases collides with
        | reserved split nonempty isReserved free =>
            rw [find?_taken_eq_some_iff.2 ⟨_, _, split, nonempty, isReserved, free⟩] at found
            cases found
            rfl
        | parameter free =>
            rw [Names.find?_taken_eq_none.2 free] at found
            cases found
  | none =>
      have free := Names.find?_taken_eq_none.1 found
      rw [map_eq_error_iff, resolveMembers_eq_error_iff aligned]
      constructor
      · rintro ⟨before, identifier, parameter, ⟨⟨after, split⟩, distinct, -, again⟩, there, rfl⟩
        have repeated := again.resolve_right List.not_mem_nil
        exact ⟨_, rfl, .parameter free split distinct repeated there⟩
      · rintro ⟨_, rfl, collides⟩
        cases collides with
        | reserved split nonempty isReserved =>
            refine absurd isReserved (free _ ?_ nonempty)
            rw [split]
            exact List.mem_append_right _ List.mem_cons_self
        | @parameter before after identifier parameter _ split distinct repeated there =>
            exact ⟨before, identifier, parameter,
              ⟨⟨after, split⟩, distinct, by simp, .inl repeated⟩, there, rfl⟩

/-- The names of an operation are resolved if none of them is reserved and its members are all
different. -/
theorem resolve_eq_ok_iff_free {names : Names} :
    Names.resolve reserved operation usesOptions = .ok names ↔
      names = { Names.heading operation usesOptions function with members := members } ∧
        (∀ name ∈ derivedNames operation.name usesOptions function,
          name ≠ "" → name ∉ reserved) ∧ members.Nodup := by
  rw [resolve_of_functionName named, ← Names.find?_taken_eq_none]
  split
  · next identifier found => simp [found]
  · next nothing =>
      rw [map_eq_ok_iff]
      simp only [resolveMembers_eq_ok_iff aligned, nothing, true_and]
      constructor
      · rintro ⟨_, ⟨rfl, distinct⟩, rfl⟩
        exact ⟨rfl, distinct⟩
      · rintro ⟨rfl, distinct⟩
        exact ⟨_, ⟨rfl, distinct⟩, rfl⟩

/-- There is a collision if a name is reserved or a member comes twice, and only then. -/
theorem exists_collision_iff :
    (∃ collision, Names.resolve reserved operation usesOptions = .error (.collision collision)) ↔
      (∃ name ∈ derivedNames operation.name usesOptions function,
        name ≠ "" ∧ name ∈ reserved) ∨ ¬ members.Nodup := by
  have resolves : (∃ names, Names.resolve reserved operation usesOptions = .ok names) ↔
      ¬ ((∃ name ∈ derivedNames operation.name usesOptions function,
        name ≠ "" ∧ name ∈ reserved) ∨ ¬ members.Nodup) := by
    simp only [resolve_eq_ok_iff_free named aligned, exists_eq_left]
    push Not
    rfl
  rw [← not_iff_not, ← resolves]
  cases outcome : Names.resolve reserved operation usesOptions with
  | ok names => simp
  | error error =>
      obtain ⟨collision, rfl, -⟩ := (resolve_eq_error_iff named aligned).1 outcome
      simp

/-- Without options the reserved names matter for the names of the functions, and otherwise only in
what they make of members. -/
theorem resolve_congr {others : List String}
    (same : ∀ name ∈ [function, "a" ++ function], name ∈ others ↔ name ∈ reserved)
    (alike : List.Forall₂ (fun parameter member => memberName others parameter.name = .ok member)
      operation.parameters members) :
    Names.resolve others operation false = Names.resolve reserved operation false := by
  have names : derivedNames operation.name false function = [function, "a" ++ function] := rfl
  rw [resolve_of_functionName named, resolve_of_functionName named, names,
    resolveMembers_congr aligned alike]
  simp only [List.forall_mem_cons] at same
  simp only [List.find?_cons, List.find?_nil, same.1, same.2.1]

end Derived

/-- How the names of an operation are resolved, given that of its function and its members.  There
is a collision if a derived name is reserved or a member comes twice, it is about the first of
these, and if there is none, these are the names.  Without options it does not matter which names
are reserved beside those of the functions, except for what members give way to. -/
structure ResolvesAs (reserved : List String) (operation : Operation) (usesOptions : Bool)
    (function : String) (members : List String) : Prop where
  collision : ∀ collision,
    Names.resolve reserved operation usesOptions = .error (.collision collision) ↔
      Collides reserved operation (derivedNames operation.name usesOptions function) members
        collision
  exists_iff :
    (∃ collision, Names.resolve reserved operation usesOptions = .error (.collision collision)) ↔
      (∃ name ∈ derivedNames operation.name usesOptions function,
        name ≠ "" ∧ name ∈ reserved) ∨ ¬ members.Nodup
  otherwise :
    (∃ collision, Names.resolve reserved operation usesOptions = .error (.collision collision)) ∨
      Names.resolve reserved operation usesOptions =
        .ok { Names.heading operation usesOptions function with members := members }
  withoutOptions : usesOptions = false → ∀ others : List String,
    (∀ name ∈ [function, "a" ++ function], name ∈ others ↔ name ∈ reserved) →
    List.Forall₂ (fun parameter member => memberName others parameter.name = .ok member)
      operation.parameters members →
    Names.resolve others operation usesOptions = Names.resolve reserved operation usesOptions

/-- The names of every operation that has a name, and whose parameters have names, can be derived,
and they decide whether they can be resolved and what is reported if not. -/
theorem resolve_decided_by_names (reserved : List String) (usesOptions : Bool)
    {operation : Operation} (named : Named operation) :
    ∃ function members, functionName operation.name = .ok function ∧
      List.Forall₂ (fun parameter member => memberName reserved parameter.name = .ok member)
        operation.parameters members ∧
      ResolvesAs reserved operation usesOptions function members := by
  cases derived : functionName operation.name with
  | error cause => exact absurd (functionName_eq_error_iff.1 derived) named.1
  | ok function =>
      obtain ⟨members, aligned⟩ := exists_members reserved named.2
      refine ⟨function, members, rfl, aligned, ?collision, exists_collision_iff derived aligned,
        ?otherwise, ?withoutOptions⟩
      case collision =>
        intro collision
        simp [resolve_eq_error_iff derived aligned]
      case otherwise =>
        cases outcome : Names.resolve reserved operation usesOptions with
        | error error =>
            obtain ⟨collision, rfl, -⟩ := (resolve_eq_error_iff derived aligned).1 outcome
            exact .inl ⟨collision, rfl⟩
        | ok names =>
            rw [((resolve_eq_ok_iff_free derived aligned).1 outcome).1]
            exact .inr rfl
      case withoutOptions =>
        rintro rfl others same alike
        exact resolve_congr derived aligned same alike

/-- An operation of which two parameters have the same member. -/
def findPets : Operation where
  name := "findPets"
  parameters := [
    { name := "pet-id", location := .query },
    { name := "limit", location := .query },
    { name := "pet.id", location := .header },
    { name := "limit", location := .header }]

/-- The second of two members that are the same is reported with its parameter.  That the name of
the options class is reserved is reported instead if there is one, and does not matter if not. -/
theorem findPets_collides :
    Named findPets ∧
    Names.resolve ["FindPetsParams"] findPets true =
      .error (.collision ⟨"findPets", "FindPetsParams", .reserved⟩) ∧
    Names.resolve ["FindPetsParams"] findPets false =
      .error (.collision ⟨"findPets", "pet_id", .parameter "pet.id"⟩) ∧
    ∃ function members, ResolvesAs ["FindPetsParams"] findPets false function members ∧
      Collides ["FindPetsParams"] findPets (derivedNames "findPets" false function) members
        ⟨"findPets", "pet_id", .parameter "pet.id"⟩ := by
  have named : Named findPets := by simp [findPets, Named]
  have withOptions : Names.resolve ["FindPetsParams"] findPets true =
      .error (.collision ⟨"findPets", "FindPetsParams", .reserved⟩) := by
    decide +kernel
  have flat : Names.resolve ["FindPetsParams"] findPets false =
      .error (.collision ⟨"findPets", "pet_id", .parameter "pet.id"⟩) := by
    decide +kernel
  obtain ⟨function, members, -, -, decided⟩ :=
    resolve_decided_by_names ["FindPetsParams"] false named
  exact ⟨named, withOptions, flat, function, members, decided, (decided.collision _).1 flat⟩

end Bindery.Plan

import Bindery.Proofs.Definitions
import Bindery.Proofs.Spelling

/-!
# Names that are always there

A name that is bound in every module before its first line can be taken by a definition, and whoever
imports all names of such a module loses the old meaning.  The name of a function gives way to these
names.  The name of the asynchronous function is made from it afterwards by a letter in front, and
what that makes is not compared again: four of the names that are always there come about in this
way, and no other name that a client defines is one.
-/

namespace Bindery.Naming

open Bindery.Code Bindery.Plan Bindery.Steps

/-! ## Letters in front and underscores behind -/

/-- What follows the first letter of those names that are always there and start with an `a`. -/
def builtinTails : List String := ["bs", "iter", "ll", "next", "ny", "scii"]

/-- Those of them that the name of a function can be: it gives way to the others. -/
def hidingTails : List String := ["bs", "ll", "ny", "scii"]

/-- What is before the underscore of those names that are always there and end in one. -/
def builtinStems : List String := [
  "__build_class_", "__debug_", "__doc_", "__import_", "__loader_", "__name_", "__package_",
  "__spec_"]

/-- The names that are always there, one by one: those that start with an `a`, those that end in an
underscore, and that none ends like the name of a class of options or of their builder. -/
theorem builtins_parts :
    builtins.filter (fun known => (bytesOf "a").isPrefixOf (bytesOf known)) =
      builtinTails.map ("a" ++ ·) ∧
    builtins.filter (fun known => (bytesOf "_").isSuffixOf (bytesOf known)) =
      builtinStems.map (· ++ "_") ∧
    builtins.filter (fun known => (bytesOf "Params").isSuffixOf (bytesOf known)) =
      [].map (· ++ "Params") ∧
    builtins.filter (fun known => (bytesOf "Builder").isSuffixOf (bytesOf known)) =
      [].map (· ++ "Builder") := by
  decide +kernel

/-- What is left of those names without their first letter or without the underscore is such a name
in few cases. -/
theorem parts_of_builtins :
    hidingTails = builtinTails.filter (· ∉ builtins) ∧ ∀ stem ∈ builtinStems, stem ∉ builtins := by
  decide +kernel

theorem append_mem_builtins_iff {word : String} : "a" ++ word ∈ builtins ↔ word ∈ builtinTails :=
  append_mem_iff builtins_parts.1

theorem append_underscore_mem_builtins_iff {word : String} :
    word ++ "_" ∈ builtins ↔ word ∈ builtinStems :=
  append_ending_mem_iff builtins_parts.2.1

theorem optionsClass_not_mem_builtins (operation : String) : optionsClass operation ∉ builtins :=
  mt (append_ending_mem_iff builtins_parts.2.2.1).1 List.not_mem_nil

theorem builderClass_not_mem_builtins (options : String) : builderClass options ∉ builtins :=
  mt (append_ending_mem_iff builtins_parts.2.2.2).1 List.not_mem_nil

theorem mem_hidingTails_iff {word : String} :
    word ∈ hidingTails ↔ word ∈ builtinTails ∧ word ∉ builtins := by
  rw [parts_of_builtins.1, List.mem_filter, decide_eq_true_eq]

/-! ## The names of an operation -/

/-- The underscore that the name of a function gives way with does not make another name of it that
is always there. -/
theorem functionName_not_mem_builtins {operation function : String}
    (derived : functionName operation = .ok function) : function ∉ builtins := by
  obtain ⟨text, -, rfl⟩ := map_eq_ok_iff.1 derived
  split
  · next taken =>
      intro again
      exact parts_of_builtins.2 text (append_underscore_mem_builtins_iff.1 again) taken
  · next free => exact free

/-- The name of an asynchronous function is always there exactly if one of a few words remains of
the operation's name. -/
theorem asyncName_mem_builtins_iff {operation function : String}
    (derived : functionName operation = .ok function) :
    "a" ++ function ∈ builtins ↔ legible operation ∈ hidingTails := by
  have noKeyword : ∀ word ∈ hidingTails, word ∉ keywords := by decide +kernel
  have free : ∀ word ∈ hidingTails, word ∉ keywords ∧ word ∉ builtins :=
    fun word member => ⟨noKeyword word member, (mem_hidingTails_iff.1 member).2⟩
  rw [append_mem_builtins_iff, ← functionName_mem_iff (by decide) free derived,
    mem_hidingTails_iff, and_iff_left (functionName_not_mem_builtins derived)]

section Resolved

variable {reserved : List String} {operation : Api.Operation} {usesOptions : Bool} {names : Names}

/-- The functions of an operation whose names could be resolved.  That of the function itself is
never a name that is always there; that of the asynchronous function is one exactly if what remains
of the operation's name is such a name without its first letter and not such a name itself. -/
theorem functions_hide_builtins_iff
    (resolved : Names.resolve reserved operation usesOptions = .ok names) :
    names.function ∉ builtins ∧
    (names.asyncFunction ∈ builtins ↔ legible operation.name ∈ ["bs", "ll", "ny", "scii"]) := by
  obtain ⟨derived, heading, -, -⟩ := Names.resolve_eq_ok_iff.1 resolved
  have async : names.asyncFunction = "a" ++ names.function := by
    rw [heading]
    rfl
  rw [async]
  exact ⟨functionName_not_mem_builtins derived, asyncName_mem_builtins_iff derived⟩

/-- An accent and a character that is left out do not keep a name from hiding another. -/
theorem accented_hides_builtin :
    ∃ names, Names.resolve ["any"] { name := "$ĺl" } false = .ok names ∧
      names.function ∉ builtins ∧
      (names.asyncFunction ∈ builtins ↔ legible "$ĺl" ∈ ["bs", "ll", "ny", "scii"]) ∧
      legible "$ĺl" = "ll" := by
  have shown : Names.resolve ["any"] { name := "$ĺl" } false =
      .ok ⟨"$ĺl", "ll", "all", none, none, []⟩ ∧ legible "$ĺl" = "ll" := by
    decide +kernel
  obtain ⟨resolved, remains⟩ := shown
  obtain ⟨free, hides⟩ := functions_hide_builtins_iff resolved
  exact ⟨_, resolved, free, hides, remains⟩

/-- The name of a function does not keep that of the asynchronous function from hiding another. -/
theorem ny_hides_any :
    ¬ ∀ names, Names.resolve [] { name := "ny" } true = .ok names →
      names.function ∉ builtins ∧ names.asyncFunction ∉ builtins := by
  intro free
  have shown : Names.resolve [] { name := "ny" } true =
      .ok ⟨"ny", "ny", "any", some "NyParams", some "NyParamsBuilder", []⟩ ∧ "any" ∈ builtins := by
    decide +kernel
  exact (free _ shown.1).2 shown.2

/-- Of the names that an operation defines, only that of the asynchronous function can be one that
is always there. -/
theorem mem_builtins_iff_of_mem_moduleNames
    (resolved : names.Resolved reserved operation usesOptions) {name : String}
    (member : name ∈ names.moduleNames) :
    name ∈ builtins ↔ name ∈ hidingTails.map ("a" ++ ·) := by
  constructor
  · intro builtin
    obtain ⟨derived, heading, -, -⟩ := resolved
    rw [heading] at member
    simp only [Names.moduleNames, Names.classes, Names.heading, List.mem_cons, List.mem_append,
      Option.mem_toList] at member
    rcases member with rfl | rfl | isOptions | isBuilder
    · exact absurd builtin (functionName_not_mem_builtins derived)
    · refine List.mem_map_of_mem (mem_hidingTails_iff.2 ⟨?_, functionName_not_mem_builtins derived⟩)
      exact append_mem_builtins_iff.1 builtin
    · split at isOptions <;> cases isOptions
      exact absurd builtin (optionsClass_not_mem_builtins _)
    · obtain ⟨options, -, rfl⟩ := Option.map_eq_some_iff.1 isBuilder
      exact absurd builtin (builderClass_not_mem_builtins _)
  · intro hides
    obtain ⟨tail, isTail, rfl⟩ := List.mem_map.1 hides
    exact append_mem_builtins_iff.2 (mem_hidingTails_iff.1 isTail).1

end Resolved

end Bindery.Naming

namespace Bindery.Client

open Bindery.Code Bindery.Naming Bindery.Plan

/-- Whoever imports all names of the endpoints module loses at most four of the names that are
always there. -/
theorem exported_mem_builtins_iff {setting : Setting} {modelsModule : String}
    {operations : List Api.Operation} {coverage : Coverage}
    (covered : cover setting modelsModule operations = .ok coverage) {name : String}
    (exported : name ∈ (endpointsModule coverage.codes).exportedNames) :
    name ∈ builtins ↔ name ∈ ["abs", "all", "any", "ascii"] := by
  rw [exportedNames_endpointsModule, (sorted_perm _).mem_iff] at exported
  obtain ⟨code, inCodes, member⟩ := List.mem_flatMap.1 exported
  obtain ⟨operation, -, names, types, keywords, resolved, -, -, rfl⟩ :=
    exists_assembled_of_mem_codes covered inCodes
  exact mem_builtins_iff_of_mem_moduleNames resolved member

end Bindery.Client

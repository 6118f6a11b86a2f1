import Bindery.Code.Imports
import Mathlib.Data.List.Basic
import Mathlib.Data.List.Perm.Basic

/-!
# Order that forgets where names come from

Names are put into code point order before they are emitted, and so are the modules that they are
imported from.  What is emitted then depends on which names there are and on nothing else: neither
on the order in which they were collected nor on how often each of them was.
-/

namespace Bindery.Code

/-! ## Names -/

/-- A name that is inserted into names in order leaves them in order. -/
theorem pairwise_inserted {name : String} {names : List String}
    (ordered : names.Pairwise (· ≤ ·)) : (inserted name names).Pairwise (· ≤ ·) := by
  induction names with
  | nil => exact List.pairwise_singleton ..
  | cons other rest ih =>
      obtain ⟨least, later⟩ := List.pairwise_cons.1 ordered
      unfold inserted
      split
      · next before =>
          refine List.pairwise_cons.2 ⟨fun candidate member => ?_, ordered⟩
          rcases List.mem_cons.1 member with rfl | inRest
          · exact before
          · exact String.le_trans before (least candidate inRest)
      · next after =>
          have otherFirst : other ≤ name := (String.le_total name other).resolve_left after
          refine List.pairwise_cons.2 ⟨fun candidate member => ?_, ih later⟩
          rcases List.mem_cons.1 ((inserted_perm name rest).mem_iff.1 member) with rfl | inRest
          · exact otherFirst
          · exact least candidate inRest

theorem pairwise_sorted (names : List String) : (sorted names).Pairwise (· ≤ ·) := by
  induction names with
  | nil => exact .nil
  | cons name rest ih => exact pairwise_inserted ih

/-- Names in order do not depend on the order that they had. -/
theorem sorted_eq_of_perm {first second : List String} (same : first.Perm second) :
    sorted first = sorted second := by
  have perm : (sorted first).Perm (sorted second) :=
    (sorted_perm first).trans (same.trans (sorted_perm second).symm)
  exact perm.eq_of_pairwise (fun _ _ _ _ => String.le_antisymm) (pairwise_sorted first)
    (pairwise_sorted second)

theorem nodup_eraseDups : (names : List String) → names.eraseDups.Nodup
  | [] => by simp
  | name :: rest => by
      rw [List.eraseDups_cons, List.nodup_cons]
      exact ⟨by simp, nodup_eraseDups (rest.filter fun other => !other == name)⟩
termination_by names => names.length
decreasing_by exact Nat.lt_succ_of_le (List.length_filter_le _ _)

theorem nodup_ascending (names : List String) : (ascending names).Nodup :=
  (sorted_perm _).nodup_iff.2 (nodup_eraseDups names)

theorem pairwise_lt_sorted {names : List String} (distinct : names.Nodup) :
    (sorted names).Pairwise (· < ·) := by
  have distinct := (sorted_perm names).nodup_iff.2 distinct
  refine ((pairwise_sorted names).and distinct).imp ?_
  rintro first second ⟨least, different⟩
  by_contra after
  exact different (String.le_antisymm least (String.not_lt.1 after))

theorem pairwise_lt_ascending (names : List String) : (ascending names).Pairwise (· < ·) :=
  pairwise_lt_sorted (nodup_eraseDups names)

/-- Distinct names in order depend on which names there are only. -/
theorem ascending_eq_of_mem_iff {first second : List String}
    (same : ∀ name, name ∈ first ↔ name ∈ second) : ascending first = ascending second := by
  apply sorted_eq_of_perm
  rw [List.perm_ext_iff_of_nodup (nodup_eraseDups first) (nodup_eraseDups second)]
  simpa using same

/-! ## Imports -/

namespace Imports

@[simp] theorem names_empty (module : String) : names {} module = [] := rfl

theorem mem_names_from_ {asked module name : String} {names : List String} :
    name ∈ (from_ asked names).names module ↔ module = asked ∧ name ∈ names := by
  simp [from_, and_assoc]

theorem mem_names_append {first second : Imports} {module name : String} :
    name ∈ (first ++ second).names module ↔
      name ∈ first.names module ∨ name ∈ second.names module := by
  simp only [mem_names, requests_append, List.mem_append, or_and_right, exists_or]

theorem mem_names_all {pieces : List Imports} {module name : String} :
    name ∈ (all pieces).names module ↔ ∃ piece ∈ pieces, name ∈ piece.names module := by
  simp only [mem_names, all, List.mem_flatMap]
  tauto

/-- Import statements depend on what is asked for only: which modules, and which names from each. -/
theorem statements_eq_of_mem_iff {first second : Imports}
    (modules : ∀ module, (∃ names, (module, names) ∈ first.requests) ↔
      ∃ names, (module, names) ∈ second.requests)
    (names : ∀ module name, (∃ names, (module, names) ∈ first.requests ∧ name ∈ names) ↔
      ∃ names, (module, names) ∈ second.requests ∧ name ∈ names) :
    first.statements = second.statements := by
  have sameNames (module : String) : first.names module = second.names module := by
    refine ascending_eq_of_mem_iff fun name => ?_
    have asked := names module name
    simpa only [← mem_names, Imports.names, mem_ascending] using asked
  have sameModules : first.modules = second.modules := by
    refine ascending_eq_of_mem_iff fun module => ?_
    have asked := modules module
    simpa only [← mem_modules, Imports.modules, mem_ascending] using asked
  have sameStatement : first.statement = second.statement := by
    funext module
    simp only [statement, sameNames]
  simp only [statements, emittedModules]
  rw [sameModules, sameStatement]

/-- Pieces of code import the same in whatever order they come. -/
theorem statements_all_eq_of_perm {first second : List Imports} (same : first.Perm second) :
    (all first).statements = (all second).statements := by
  have requests (request : String × List String) :
      request ∈ (all first).requests ↔ request ∈ (all second).requests :=
    (same.flatMap_right _).mem_iff
  exact statements_eq_of_mem_iff (fun module => by simp only [requests])
    (fun module name => by simp only [requests])

end Imports

end Bindery.Code

/-!
# Names in ascending order

Lists of names are emitted in code point order, so that the same set of names always gives the
same text.
-/

namespace Bindery.Code

/-- Names in code point order with one name more. -/
def inserted (name : String) : List String → List String
  | [] => [name]
  | other :: rest =>
    if name ≤ other then name :: other :: rest else other :: inserted name rest

/-- Names in code point order; a name that occurs twice stays twice. -/
def sorted : List String → List String
  | [] => []
  | name :: rest => inserted name (sorted rest)

/-- The distinct names in code point order. -/
def ascending (names : List String) : List String := sorted names.eraseDups

theorem inserted_perm (name : String) (names : List String) :
    (inserted name names).Perm (name :: names) := by
  induction names with
  | nil => exact .refl _
  | cons other rest ih =>
      unfold inserted
      split
      · exact .refl _
      · exact (ih.cons other).trans (.swap name other rest)

/-- Sorting keeps every name as often as it occurs. -/
theorem sorted_perm (names : List String) : (sorted names).Perm names := by
  induction names with
  | nil => exact .nil
  | cons name rest ih => exact (inserted_perm name _).trans (ih.cons name)

@[simp] theorem mem_sorted {name : String} {names : List String} :
    name ∈ sorted names ↔ name ∈ names :=
  (sorted_perm names).mem_iff

@[simp] theorem mem_ascending {name : String} {names : List String} :
    name ∈ ascending names ↔ name ∈ names := by
  simp [ascending]

end Bindery.Code

/-!
# Sets of characters given by ranges

A property of characters is stored as a list of closed ranges of code points.
-/

namespace Bindery.Text

/-- Closed ranges of code points. -/
abbrev Ranges := List (Nat × Nat)

/-- Whether a code point lies in one of the ranges. -/
def Ranges.contains (ranges : Ranges) (code : Nat) : Bool :=
  ranges.any fun range => range.1 ≤ code && code ≤ range.2

theorem Ranges.contains_iff {ranges : Ranges} {code : Nat} :
    ranges.contains code = true ↔ ∃ range ∈ ranges, range.1 ≤ code ∧ code ≤ range.2 := by
  simp [Ranges.contains]

end Bindery.Text

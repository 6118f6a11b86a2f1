/-!
# What is left to read

A reader gives back what it leaves of its input, with the bound that lets another reader go on
from there.  A `Rest` is strictly shorter than the input and a `Remaining` may be all of it.
-/

namespace Bindery.Data

variable {α : Type}

/-- What is left of an input after a part of it was read. -/
abbrev Rest (whole : List α) := { rest : List α // rest.length < whole.length }

/-- What is left of an input after a part of it was read that may be empty. -/
abbrev Remaining (whole : List α) := { rest : List α // rest.length ≤ whole.length }

theorem length_dropWhile_le (p : α → Bool) (whole : List α) :
    (whole.dropWhile p).length ≤ whole.length :=
  (List.dropWhile_sublist p).length_le

theorem length_drop_le (count : Nat) (whole : List α) :
    (whole.drop count).length ≤ whole.length :=
  (List.drop_sublist count whole).length_le

theorem length_le_cons (first : α) (rest : List α) : rest.length ≤ (first :: rest).length :=
  Nat.le_succ rest.length

theorem length_drop_lt_cons (count : Nat) (first : α) (rest : List α) :
    (rest.drop count).length < (first :: rest).length :=
  Nat.lt_succ_of_le (length_drop_le count rest)

namespace Rest

/-- What is left after reading one element. -/
def tail (first : α) (rest : List α) : Rest (first :: rest) := ⟨rest, by simp⟩

/-- What is left after reading one element and some more. -/
def drop (count : Nat) (first : α) (rest : List α) : Rest (first :: rest) :=
  ⟨rest.drop count, length_drop_lt_cons count first rest⟩

/-- What is left of an input is left of every input of at least its length. -/
def of {shorter whole : List α} (left : Rest shorter) (bound : shorter.length ≤ whole.length) :
    Rest whole :=
  ⟨left.1, Nat.lt_of_lt_of_le left.2 bound⟩

/-- What is left of the input after its first element is left of the whole input. -/
def past (first : α) {rest : List α} (left : Rest rest) : Rest (first :: rest) :=
  left.of (length_le_cons first rest)

/-- What is left of the end of an input is left of the input. -/
def pastDrop (count : Nat) {whole : List α} (left : Rest (whole.drop count)) : Rest whole :=
  left.of (length_drop_le count whole)

/-- What is left after reading on from what is left. -/
def andThen {whole : List α} (left : Rest whole) (last : Rest left.1) : Rest whole :=
  ⟨last.1, Nat.lt_trans last.2 left.2⟩

/-- What is left after reading on from what is left, by a reader that may read nothing. -/
def andMaybe {whole : List α} (left : Rest whole) (last : Remaining left.1) : Rest whole :=
  ⟨last.1, Nat.lt_of_le_of_lt last.2 left.2⟩

/-- What is left of an input remains of it. -/
def remaining {whole : List α} (left : Rest whole) : Remaining whole :=
  ⟨left.1, Nat.le_of_lt left.2⟩

end Rest

namespace Remaining

/-- An input of which nothing was read. -/
def all (whole : List α) : Remaining whole := ⟨whole, Nat.le_refl whole.length⟩

/-- What remains after the elements of a class at the start. -/
def dropWhile (p : α → Bool) (whole : List α) : Remaining whole :=
  ⟨whole.dropWhile p, length_dropWhile_le p whole⟩

/-- What remains after some more elements. -/
def drop (count : Nat) {whole : List α} (left : Remaining whole) : Remaining whole :=
  ⟨left.1.drop count, Nat.le_trans (length_drop_le count left.1) left.2⟩

/-- What remains of the input after its first element is left of the whole input. -/
def past (first : α) {rest : List α} (left : Remaining rest) : Rest (first :: rest) :=
  ⟨left.1, Nat.lt_succ_of_le left.2⟩

/-- What is left after reading on from what remains. -/
def andThen {whole : List α} (left : Remaining whole) (last : Rest left.1) : Rest whole :=
  ⟨last.1, Nat.lt_of_lt_of_le last.2 left.2⟩

/-- What remains after reading on from what remains, by a reader that may read nothing. -/
def andMaybe {whole : List α} (left : Remaining whole) (last : Remaining left.1) :
    Remaining whole :=
  ⟨last.1, Nat.le_trans last.2 left.2⟩

end Remaining

end Bindery.Data

/-!
# Parts of a text

A text that is divided by a separator, and what stands on the two sides of one.
-/

namespace Bindery.Text

/-- The parts of a text between separators; a text with `n` of them has `n + 1` parts. -/
def split (isSeparator : Char → Bool) : List Char → List (List Char)
  | [] => [[]]
  | c :: rest =>
    if isSeparator c then [] :: split isSeparator rest
    else match split isSeparator rest with
      | part :: more => (c :: part) :: more
      | [] => [[c]]

theorem split_ne_nil (isSeparator : Char → Bool) (text : List Char) :
    split isSeparator text ≠ [] := by
  cases text with
  | nil => simp [split]
  | cons c rest =>
    simp only [split]
    split
    · simp
    · split <;> simp

theorem split_of_forall {isSeparator : Char → Bool} {text : List Char}
    (whole : ∀ c ∈ text, isSeparator c = false) : split isSeparator text = [text] := by
  induction text with
  | nil => rfl
  | cons c rest ih =>
      rw [split, ih fun other member => whole other (List.mem_cons_of_mem _ member),
        whole c List.mem_cons_self]
      rfl

theorem mem_of_mem_split {isSeparator : Char → Bool} {text part : List Char}
    (member : part ∈ split isSeparator text) {c : Char} (inPart : c ∈ part) : c ∈ text := by
  induction text generalizing part with
  | nil =>
      rw [split, List.mem_singleton] at member
      exact member ▸ inPart
  | cons d text ih =>
      rw [split] at member
      by_cases separates : isSeparator d = true
      · rw [if_pos separates] at member
        cases member with
        | head => cases inPart
        | tail _ later => exact List.mem_cons_of_mem _ (ih later inPart)
      · rw [if_neg separates] at member
        cases parts : split isSeparator text with
        | nil => exact absurd parts (split_ne_nil _ _)
        | cons first more =>
            rw [parts] at ih member
            cases member with
            | head =>
                cases inPart with
                | head => exact List.mem_cons_self
                | tail _ inFirst => exact List.mem_cons_of_mem _ (ih List.mem_cons_self inFirst)
            | tail _ later =>
                exact List.mem_cons_of_mem _ (ih (List.mem_cons_of_mem _ later) inPart)

/-- Texts put together with a separator between them. -/
def join (separator : Char) : List (List Char) → List Char
  | [] => []
  | [part] => part
  | part :: more => part ++ separator :: join separator more

end Bindery.Text

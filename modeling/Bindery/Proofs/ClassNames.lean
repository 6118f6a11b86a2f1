import Bindery.Proofs.Locals
import Bindery.Proofs.Spelling

/-!
# Names that are class names already

The name of a class is a word that starts with a capital, or with an underscore before a digit.
These are exactly the names that stay as they are when a class name is derived from them, and so
deriving one twice is deriving it once.
-/

namespace Bindery.Naming

open Bindery.Text

/-- A text that can be the name of a class: letters and digits that start with a capital, or with a
digit that has an underscore before it. -/
inductive IsClassName : List Char → Prop where
  | capital {c : Char} {rest : List Char} :
      c.isUpper = true → (∀ d ∈ rest, isWordChar d = true) → IsClassName (c :: rest)
  | digit {c : Char} {rest : List Char} :
      c.isDigit = true → (∀ d ∈ rest, isWordChar d = true) → IsClassName ('_' :: c :: rest)

/-! ## What is derived -/

/-- Letters and digits that do not start with a small letter are a class name once they do not start
with a digit. -/
theorem isClassName_guardDigit {text : List Char} (nonempty : guardDigit text ≠ [])
    (wordChars : ∀ c ∈ text, isWordChar c = true)
    (notSmall : ∀ c ∈ text.head?, c.isLower = false) : IsClassName (guardDigit text) := by
  cases text with
  | nil => exact absurd rfl nonempty
  | cons c rest =>
      obtain ⟨first, more⟩ := List.forall_mem_cons.1 wordChars
      have notSmall := notSmall c rfl
      rw [guardDigit]
      split
      · next digit => exact .digit digit more
      · next noDigit =>
          refine .capital ?_ more
          simpa [isWordChar, Char.isAlphanum, Char.isAlpha, notSmall, noDigit] using first

theorem isClassName_unnamed : IsClassName unnamed.toList := by
  have letters : ∀ c ∈ "nnamedType".toList, isWordChar c = true := by
    simp [isWordChar, Char.isAlphanum]
  have capital : ('U').isUpper = true := by decide
  exact .capital capital letters

theorem isClassName_className (name : String) : IsClassName (className name).toList := by
  simp only [className]
  split
  · exact isClassName_unnamed
  · next nonempty =>
      rw [String.toList_ofList]
      refine isClassName_guardDigit nonempty (fun c member => ?_)
        (isLower_head?_flatMap_capitalize _)
      rw [← content_flatMap_capitalize] at member
      exact (List.mem_filter.1 member).2

/-! ## What stays as it is -/

theorem fold_wordChars {text : List Char} (wordChars : ∀ c ∈ text, isWordChar c = true) :
    fold text = text := by
  refine fold_ascii fun c member => ?_
  have bounds := toNat_of_isWordChar (wordChars c member)
  omega

/-- Letters and digits that do not start with a small letter are the only word of themselves, and
have their capital. -/
theorem flatMap_capitalize_eq_self {c : Char} {rest : List Char} (notSmall : c.isLower = false)
    (wordChars : ∀ d ∈ c :: rest, isWordChar d = true) :
    (words (c :: rest)).flatMap capitalize = c :: rest := by
  obtain ⟨first, more⟩ := List.forall_mem_cons.1 wordChars
  have whole : rest.takeWhile isWordChar = rest := List.takeWhile_eq_self_iff.2 more
  have nothing : rest.dropWhile isWordChar = [] := List.dropWhile_eq_nil_iff.2 more
  have fixed : c.toUpper = c := Char.toUpper_eq_of_not_isLower (by simp [notSmall])
  rw [words, if_pos first, whole, nothing, words, List.flatMap_singleton, capitalize, fixed]

theorem guardDigit_words_eq_self {text : List Char} (isClass : IsClassName text) :
    guardDigit ((words (fold text)).flatMap capitalize) = text := by
  cases isClass with
  | @capital c rest upper more =>
      have letter : c.isAlpha = true := by simp [Char.isAlpha, upper]
      have notSmall : c.isLower = false := Bool.eq_false_iff.2 (Char.not_isLower_of_isUpper upper)
      have wordChars : ∀ d ∈ c :: rest, isWordChar d = true :=
        List.forall_mem_cons.2 ⟨by simp [isWordChar, Char.isAlphanum, letter], more⟩
      rw [fold_wordChars wordChars, flatMap_capitalize_eq_self notSmall wordChars, guardDigit,
        isDigit_eq_false_of_isAlpha letter]
      rfl
  | @digit c rest digit more =>
      have notSmall : c.isLower = false := by
        rw [Bool.eq_false_iff]
        intro small
        rw [isDigit_eq_false_of_isAlpha (by simp [Char.isAlpha, small])] at digit
        cases digit
      have wordChars : ∀ d ∈ c :: rest, isWordChar d = true :=
        List.forall_mem_cons.2 ⟨by simp [isWordChar, Char.isAlphanum, digit], more⟩
      have folded : fold ('_' :: c :: rest) = '_' :: c :: rest := by
        rw [← List.singleton_append, fold_append, fold_wordChars wordChars]
        rfl
      rw [folded, words, if_neg (by decide), flatMap_capitalize_eq_self notSmall wordChars,
        guardDigit, if_pos digit]

/-- A text that can be the name of a class is the class name of itself. -/
theorem className_eq_self {text : String} (isClass : IsClassName text.toList) :
    className text = text := by
  rw [className, guardDigit_words_eq_self isClass]
  split
  · next empty =>
      rw [empty] at isClass
      cases isClass
  · exact String.ofList_toList

/-- The name of a class can be one and does not end in an underscore, and deriving it again changes
nothing: the class names are exactly the texts that can be one, and exactly those that are the class
name of themselves.  The letters and digits of a class name are those of the name that it is derived
from without its accents, in their order and up to case; only where that has none the class has the
name that stands for this. -/
theorem className_canonical (name : String) :
    IsClassName (className name).toList ∧ Unmarked (className name) ∧
      className (className name) = className name ∧
      ((∃ other, className other = name) ↔ IsClassName name.toList) ∧
      (className name = name ↔ IsClassName name.toList) ∧
      if content (fold name.toList) = [] then className name = unnamed
      else (content (className name).toList).map Char.toUpper =
        (content (fold name.toList)).map Char.toUpper := by
  have isClass := isClassName_className name
  have fixed : className name = name ↔ IsClassName name.toList :=
    ⟨fun same => same ▸ isClass, className_eq_self⟩
  refine ⟨isClass, unmarked_className name, className_eq_self isClass, ⟨?_, ?_⟩, fixed, ?_⟩
  · rintro ⟨other, rfl⟩
    exact isClassName_className other
  · exact fun shape => ⟨name, fixed.2 shape⟩
  · split
    · next nothing => exact className_eq_unnamed nothing
    · next something => exact content_className something

end Bindery.Naming

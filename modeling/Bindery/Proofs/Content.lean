import Mathlib
import Bindery.Plan.Names

/-!
# Letters and digits of derived names

Function names and class names are derived from the same name by different rules.  What the rules
agree on is its content, the letters and digits of its plain form in their order: one of them
keeps the content as it is and the other changes at most the case of letters.  Everything else
that either rule does concerns separators and underscores only.
-/

namespace Bindery.Naming

open Bindery.Text Bindery.Code

/-- The letters and digits of a text. -/
def content (text : List Char) : List Char := text.filter isWordChar

@[simp] theorem content_nil : content [] = [] := rfl

@[simp] theorem content_append (first second : List Char) :
    content (first ++ second) = content first ++ content second :=
  List.filter_append ..

theorem content_cons_of_wordChar {c : Char} (wordChar : isWordChar c = true)
    (rest : List Char) : content (c :: rest) = c :: content rest :=
  List.filter_cons_of_pos wordChar

theorem content_cons_of_not_wordChar {c : Char} (other : isWordChar c = false)
    (rest : List Char) : content (c :: rest) = content rest :=
  List.filter_cons_of_neg (by simp [other])

@[simp] theorem content_underscore (rest : List Char) :
    content ('_' :: rest) = content rest :=
  content_cons_of_not_wordChar (by decide) rest

theorem content_eq_self {text : List Char} (wordChars : ∀ c ∈ text, isWordChar c = true) :
    content text = text :=
  List.filter_eq_self.2 wordChars

theorem content_dropWhile {separates : Char → Bool}
    (disjoint : ∀ c, separates c = true → isWordChar c = false) (text : List Char) :
    content (text.dropWhile separates) = content text := by
  induction text with
  | nil => rfl
  | cons c rest ih =>
      by_cases separator : separates c = true
      · rw [List.dropWhile_cons_of_pos separator, ih,
          content_cons_of_not_wordChar (disjoint c separator)]
      · rw [List.dropWhile_cons_of_neg separator]

@[simp] theorem content_guardDigit (text : List Char) :
    content (guardDigit text) = content text := by
  cases text with
  | nil => rfl
  | cons c rest =>
      simp only [guardDigit]
      split
      · exact content_underscore _
      · rfl

/-! ## Function names -/

theorem toNat_of_isWordChar {c : Char} (wordChar : isWordChar c = true) :
    0x30 ≤ c.toNat ∧ c.toNat ≤ 0x7A := by
  simp only [isWordChar, Char.isAlphanum, Char.isAlpha, Char.isUpper, Char.isLower,
    Char.isDigit, Bool.or_eq_true, Bool.and_eq_true, decide_eq_true_eq, ge_iff_le,
    UInt32.le_iff_toNat_le] at wordChar
  change ((0x41 ≤ c.toNat ∧ c.toNat ≤ 0x5A) ∨ (0x61 ≤ c.toNat ∧ c.toNat ≤ 0x7A)) ∨
    (0x30 ≤ c.toNat ∧ c.toNat ≤ 0x39) at wordChar
  omega

theorem isBlank_eq_false_of_isWordChar {c : Char} (wordChar : isWordChar c = true) :
    isBlank c = false := by
  rw [Bool.eq_false_iff]
  intro blank
  obtain ⟨range, member, lower, upper⟩ := Ranges.contains_iff.1 blank
  have bounds := toNat_of_isWordChar wordChar
  have apart : ∀ range ∈ blanks, range.2 < 0x30 ∨ 0x7A < range.1 := by decide
  rcases apart range member with below | above <;> omega

theorem isWordChar_eq_false_of_isSeparator {c : Char} (separator : isSeparator c = true) :
    isWordChar c = false := by
  rw [Bool.eq_false_iff]
  intro wordChar
  have notBlank := isBlank_eq_false_of_isWordChar wordChar
  simp only [isSeparator, notBlank, Bool.or_false, Bool.or_eq_true, decide_eq_true_eq]
    at separator
  rcases separator with rfl | rfl
  · exact absurd wordChar (by decide)
  · exact absurd wordChar (by decide)

theorem content_joinWords (text : List Char) : content (joinWords text) = content text := by
  fun_induction joinWords text with
  | case1 => rfl
  | case2 c rest separator ih =>
      rw [content_underscore, ih,
        content_dropWhile fun _ => isWordChar_eq_false_of_isSeparator,
        content_cons_of_not_wordChar (isWordChar_eq_false_of_isSeparator separator)]
  | case3 c rest other ih =>
      by_cases wordChar : isWordChar c = true
      · rw [content_cons_of_wordChar wordChar, content_cons_of_wordChar wordChar, ih]
      · rw [Bool.not_eq_true] at wordChar
        rw [content_cons_of_not_wordChar wordChar, content_cons_of_not_wordChar wordChar, ih]

theorem content_filter_isNameChar (text : List Char) :
    content (text.filter isNameChar) = content text := by
  rw [content, content, List.filter_filter]
  congr 1
  funext c
  cases h : isWordChar c <;> simp [isNameChar, h]

theorem fold_append (first second : List Char) :
    fold (first ++ second) = fold first ++ fold second :=
  List.flatMap_append

/-- Escaping a keyword does not touch the content of a name. -/
theorem content_fold_escapeKeyword (name : String) :
    content (fold (escapeKeyword name).toList) = content (fold name.toList) := by
  simp only [escapeKeyword]
  split
  · rw [String.toList_append, fold_append, content_append]
    have mark : fold "_".toList = ['_'] := fold_ascii (by simp)
    rw [mark, content_underscore, content_nil, List.append_nil]
  · rfl

/-- The plain form of a name keeps its content. -/
theorem content_plain {name text : String} (derived : plain name = .ok text) :
    content text.toList = content (fold name.toList) := by
  simp only [plain] at derived
  split at derived
  · cases derived
  · cases derived
    rw [String.toList_ofList, content_guardDigit, content_filter_isNameChar, content_joinWords,
      content_fold_escapeKeyword]

/-- A function's name keeps the content of the operation's name, also where it gives way to a
name that is always there. -/
theorem content_functionName {operation function : String}
    (derived : Plan.functionName operation = .ok function) :
    content function.toList = content (fold operation.toList) := by
  simp only [Plan.functionName] at derived
  cases plainForm : plain operation with
  | error cause =>
      rw [plainForm] at derived
      cases derived
  | ok text =>
      rw [plainForm] at derived
      cases derived
      dsimp only
      split
      · rw [String.toList_append, content_append, content_plain plainForm]
        exact List.append_nil _
      · exact content_plain plainForm

/-! ## Class names -/

theorem isWordChar_toUpper {c : Char} (wordChar : isWordChar c = true) :
    isWordChar c.toUpper = true := by
  simp only [isWordChar, Char.isAlphanum] at wordChar ⊢
  rw [Char.isAlpha_toUpper_eq_isAlpha]
  cases letter : c.isAlpha with
  | true => rfl
  | false =>
      have fixed : c.toUpper = c :=
        Char.toUpper_eq_of_not_isLower fun lower => by simp [Char.isAlpha, lower] at letter
      rw [letter, Bool.false_or] at wordChar
      rw [fixed, wordChar]
      rfl

/-- The words of a text are its content, cut at everything else. -/
theorem flatten_words (text : List Char) : (words text).flatten = content text := by
  fun_induction words text with
  | case1 => rfl
  | case2 c rest wordChar ih =>
      have word : content (rest.takeWhile isWordChar) = rest.takeWhile isWordChar :=
        content_eq_self fun _ member => List.mem_takeWhile_imp member
      rw [List.flatten_cons, ih, content_cons_of_wordChar wordChar, List.cons_append, ← word,
        ← content_append, List.takeWhile_append_dropWhile]
  | case3 c rest other ih =>
      rw [ih, content_cons_of_not_wordChar (by simpa using other)]

theorem map_toUpper_capitalize (word : List Char) :
    (capitalize word).map Char.toUpper = word.map Char.toUpper := by
  cases word with
  | nil => rfl
  | cons c rest => simp [capitalize]

theorem isWordChar_of_mem_capitalize {word : List Char}
    (wordChars : ∀ c ∈ word, isWordChar c = true) :
    ∀ c ∈ capitalize word, isWordChar c = true := by
  cases word with
  | nil => exact wordChars
  | cons first rest =>
      intro c member
      rcases List.mem_cons.1 member with rfl | later
      · exact isWordChar_toUpper (wordChars first List.mem_cons_self)
      · exact wordChars c (List.mem_cons_of_mem first later)

theorem content_flatMap_capitalize (text : List Char) :
    content ((words text).flatMap capitalize) = (words text).flatMap capitalize := by
  apply content_eq_self
  intro c member
  obtain ⟨word, inWords, inWord⟩ := List.mem_flatMap.1 member
  have wordChars : ∀ d ∈ word, isWordChar d = true := by
    intro d inWord
    have inContent : d ∈ content text := by
      rw [← flatten_words]
      exact List.mem_flatten_of_mem inWords inWord
    exact (List.mem_filter.1 inContent).2
  exact isWordChar_of_mem_capitalize wordChars c inWord

/-- The words of a text with their capitals are its content, up to case. -/
theorem map_toUpper_flatMap_capitalize (text : List Char) :
    ((words text).flatMap capitalize).map Char.toUpper = (content text).map Char.toUpper := by
  rw [List.map_flatMap, ← flatten_words, List.map_flatten, List.flatMap_def]
  simp only [map_toUpper_capitalize]

theorem guardDigit_eq_nil {text : List Char} (empty : guardDigit text = []) : text = [] := by
  cases text with
  | nil => rfl
  | cons c rest =>
      simp only [guardDigit] at empty
      split at empty <;> cases empty

/-- A class name has the content of the name it is derived from, up to case. -/
theorem content_className {name : String} (some_content : content (fold name.toList) ≠ []) :
    (content (className name).toList).map Char.toUpper =
      (content (fold name.toList)).map Char.toUpper := by
  have capitals := map_toUpper_flatMap_capitalize (fold name.toList)
  simp only [className]
  split
  · next empty =>
      rw [guardDigit_eq_nil empty] at capitals
      exact absurd (List.map_eq_nil_iff.1 capitals.symm) some_content
  · rw [String.toList_ofList, content_guardDigit, content_flatMap_capitalize, capitals]

/-- Names without content share a class name. -/
theorem className_eq_unnamed {name : String} (no_content : content (fold name.toList) = []) :
    className name = unnamed := by
  have capitals := map_toUpper_flatMap_capitalize (fold name.toList)
  rw [no_content, List.map_nil, List.map_eq_nil_iff] at capitals
  simp only [className]
  rw [capitals]
  rfl

/-- The content of a class name is as long as that of the name it is derived from; the name that
stands in where there is none has eleven letters. -/
theorem length_content_className (name : String) :
    (content (className name).toList).length =
      if content (fold name.toList) = [] then 11 else (content (fold name.toList)).length := by
  split
  · next no_content =>
      rw [className_eq_unnamed no_content]
      decide
  · next some_content =>
      have lengths := congrArg List.length (content_className some_content)
      rwa [List.length_map, List.length_map] at lengths

theorem className_ne_empty (name : String) : className name ≠ "" := by
  intro empty
  have length := length_content_className name
  rw [empty] at length
  split at length
  · cases length
  · next some_content => exact some_content (List.eq_nil_of_length_eq_zero length.symm)

end Bindery.Naming

import Bindery.Code.Soundness
import Bindery.Proofs.Content
import Bindery.Proofs.Failures
import Bindery.Proofs.Lines

/-!
# Derived names that can be names

Whatever a name is derived from, it is spelled as an identifier: of letters, digits and underscores,
and without a digit at its start.  All that can be wrong with it is that it is empty or a keyword.
Keywords are escaped before accents and other characters are taken off, so a keyword that is hidden
by one of these comes to light afterwards.  What remains of a name without them decides, and it is
compared with the keywords here without the steps in between.
-/

namespace Bindery.Naming

open Bindery.Code Bindery.Plan Bindery.Steps Bindery.Text

/-! ## Spelling -/

/-- A text of letters, digits and underscores that does not start with a digit. -/
structure Spelled (text : String) : Prop where
  chars : ∀ c ∈ text.toList, isNameChar c = true
  start : ∀ c ∈ text.toList.head?, c.isDigit = false

theorem continuesIdentifier_of_isNameChar {c : Char} (nameChar : isNameChar c = true) :
    continuesIdentifier c = true := by
  simp only [isNameChar, isWordChar, Char.isAlphanum, Bool.or_eq_true, decide_eq_true_eq]
    at nameChar
  simp only [continuesIdentifier, startsIdentifier, Bool.or_eq_true, decide_eq_true_eq]
  tauto

theorem startsIdentifier_of_isNameChar {c : Char} (nameChar : isNameChar c = true)
    (noDigit : c.isDigit = false) : startsIdentifier c = true := by
  simp only [isNameChar, isWordChar, Char.isAlphanum, noDigit, Bool.or_false, Bool.or_eq_true,
    decide_eq_true_eq] at nameChar
  simp only [startsIdentifier, Bool.or_eq_true, decide_eq_true_eq]
  tauto

namespace Spelled

variable {text more : String}

/-- All that can be wrong with a text that is spelled as a name is that it is empty or a keyword. -/
theorem isName_iff (spelled : Spelled text) :
    isName text = true ↔ text ≠ "" ∧ text ∉ keywords := by
  have identifier : isIdentifier text = true ↔ text ≠ "" := by
    rw [ne_eq, ← String.toList_eq_nil_iff]
    simp only [isIdentifier]
    cases shape : text.toList with
    | nil => simp
    | cons c rest =>
        have chars := shape ▸ spelled.chars
        have start := startsIdentifier_of_isNameChar (chars c List.mem_cons_self)
          (spelled.start c (by rw [shape]; rfl))
        simp only [start, Bool.true_and, List.all_eq_true, reduceCtorEq, not_false_eq_true,
          iff_true]
        exact fun d member =>
          continuesIdentifier_of_isNameChar (chars d (List.mem_cons_of_mem c member))
  simp [isName, identifier]

/-- A text that starts as a name and goes on in letters, digits and underscores. -/
theorem append (spelled : Spelled text) (nonempty : text ≠ "")
    (chars : ∀ c ∈ more.toList, isNameChar c = true) : Spelled (text ++ more) := by
  constructor
  · intro c member
    rw [String.toList_append, List.mem_append] at member
    exact member.elim (spelled.chars c) (chars c)
  · intro c start
    rw [String.toList_append,
      List.head?_append_of_ne_nil _ (mt String.toList_eq_nil_iff.1 nonempty)] at start
    exact spelled.start c start

end Spelled

theorem spelled_guardDigit {text : List Char} (chars : ∀ c ∈ text, isNameChar c = true) :
    Spelled (String.ofList (guardDigit text)) := by
  cases text with
  | nil => exact ⟨by simp [guardDigit], by simp [guardDigit]⟩
  | cons c rest =>
      simp only [guardDigit]
      split
      · constructor
        · rw [String.toList_ofList]
          exact List.forall_mem_cons.2 ⟨by decide, chars⟩
        · intro first start
          rw [String.toList_ofList] at start
          cases start
          decide
      · next noDigit =>
          constructor
          · rwa [String.toList_ofList]
          · intro first start
            rw [String.toList_ofList] at start
            cases start
            exact Bool.eq_false_iff.2 noDigit

/-- A keyword consists of letters. -/
theorem isAlpha_of_mem_keywords {keyword : String} (member : keyword ∈ keywords) :
    ∀ c ∈ keyword.toList, c.isAlpha = true := by
  have letters : ∀ word ∈ keywords, word.toList.all Char.isAlpha = true := by decide +kernel
  exact List.all_eq_true.1 (letters keyword member)

/-- A text with another character than letters is no keyword. -/
theorem not_mem_keywords {text : String} {c : Char} (member : c ∈ text.toList)
    (other : c.isAlpha = false) : text ∉ keywords := by
  intro keyword
  rw [isAlpha_of_mem_keywords keyword c member] at other
  cases other

/-- A name with an underscore after it can be a name. -/
theorem isName_append_underscore {text : String} (spelled : Spelled text) (nonempty : text ≠ "") :
    isName (text ++ "_") = true := by
  have marked : '_' ∈ (text ++ "_").toList := by simp
  rw [(spelled.append nonempty (by simp [isNameChar])).isName_iff]
  exact ⟨by simp [nonempty], not_mem_keywords marked (by decide)⟩

/-! ## What remains of a name -/

/-- What remains of a name: its letters and digits without accents, underscores and separators. -/
def legible (name : String) : String :=
  String.ofList ((fold name.toList).filter fun c => isNameChar c || isSeparator c)

theorem legible_of_mem_keywords : ∀ keyword ∈ keywords, legible keyword = keyword := by
  decide +kernel

theorem underscore_mem_joinWords {text : List Char} {c : Char} (member : c ∈ text)
    (separator : isSeparator c = true) : '_' ∈ joinWords text := by
  fun_induction joinWords text with
  | case1 => cases member
  | case2 => exact List.mem_cons_self
  | case3 d rest other ih =>
      rcases List.mem_cons.1 member with rfl | later
      · exact absurd separator other
      · exact List.mem_cons_of_mem d (ih later)

theorem joinWords_eq_self {text : List Char} (clear : ∀ c ∈ text, isSeparator c = false) :
    joinWords text = text := by
  fun_induction joinWords text with
  | case1 => rfl
  | case2 c rest separator =>
      rw [clear c List.mem_cons_self] at separator
      cases separator
  | case3 c rest other ih =>
      rw [ih fun d member => clear d (List.mem_cons_of_mem c member)]

/-- Separators leave an underscore, so a word of letters comes from a text without any. -/
theorem filter_joinWords_eq_iff {text word : List Char} (letters : ∀ c ∈ word, c.isAlpha = true) :
    (joinWords text).filter isNameChar = word ↔
      text.filter (fun c => isNameChar c || isSeparator c) = word := by
  have same (clear : ∀ c ∈ text, isSeparator c = false) :
      (joinWords text).filter isNameChar =
        text.filter fun c => isNameChar c || isSeparator c := by
    rw [joinWords_eq_self clear]
    exact List.filter_congr fun c member => by rw [clear c member, Bool.or_false]
  constructor
  · rintro rfl
    refine (same fun c member => Bool.eq_false_iff.2 fun separator => ?_).symm
    have marked : '_' ∈ (joinWords text).filter isNameChar :=
      List.mem_filter.2 ⟨underscore_mem_joinWords member separator, by decide⟩
    exact absurd (letters '_' marked) (by decide)
  · rintro rfl
    refine same fun c member => Bool.eq_false_iff.2 fun separator => ?_
    have letter := letters c (List.mem_filter.2 ⟨member, by simp [separator]⟩)
    have other := isWordChar_eq_false_of_isSeparator separator
    simp [isWordChar, Char.isAlphanum, letter] at other

theorem isDigit_eq_false_of_isAlpha {c : Char} (letter : c.isAlpha = true) :
    c.isDigit = false := by
  rw [Bool.eq_false_iff]
  intro digit
  simp only [Char.isAlpha, Char.isUpper, Char.isLower, Bool.or_eq_true, Bool.and_eq_true,
    decide_eq_true_eq, ge_iff_le, UInt32.le_iff_toNat_le] at letter
  simp only [Char.isDigit, Bool.and_eq_true, decide_eq_true_eq, ge_iff_le,
    UInt32.le_iff_toNat_le] at digit
  change (0x41 ≤ c.toNat ∧ c.toNat ≤ 0x5A) ∨ (0x61 ≤ c.toNat ∧ c.toNat ≤ 0x7A) at letter
  change 0x30 ≤ c.toNat ∧ c.toNat ≤ 0x39 at digit
  omega

theorem guardDigit_eq_iff {text word : List Char} (letters : ∀ c ∈ word, c.isAlpha = true) :
    guardDigit text = word ↔ text = word := by
  cases text with
  | nil => rfl
  | cons c rest =>
      simp only [guardDigit]
      split
      · next digit =>
          constructor
          · rintro rfl
            exact absurd (letters '_' List.mem_cons_self) (by decide)
          · rintro rfl
            rw [isDigit_eq_false_of_isAlpha (letters c List.mem_cons_self)] at digit
            cases digit
      · rfl

/-- A word of letters is the plain form of the names that it remains of, except keywords. -/
theorem plain_eq_ok_iff {name word : String} (named : name ≠ "")
    (letters : ∀ c ∈ word.toList, c.isAlpha = true) :
    plain name = .ok word ↔ name ∉ keywords ∧ legible name = word := by
  have some_character : ¬ name.isEmpty = true := by simpa using named
  simp only [plain, legible]
  rw [if_neg some_character, Except.ok.injEq, String.ofList_eq, guardDigit_eq_iff letters,
    filter_joinWords_eq_iff letters, String.ofList_eq, escapeKeyword]
  split
  · next keyword =>
      -- The underscore that escapes a keyword is never taken off again.
      refine iff_of_false (fun same => ?_) (fun other => other.1 keyword)
      have marked : '_' ∈ word.toList := by
        rw [← same, String.toList_append, fold_append, List.filter_append]
        exact List.mem_append_right _ (by decide)
      exact absurd (letters '_' marked) (by decide)
  · next other => simp [other]

/-- A name in which a keyword is hidden that comes to light when the name is derived.  It stays one
unless it is reserved, for then it gives way. -/
def HidesKeyword (reserved : List String) (name : String) : Prop :=
  name ∉ keywords ∧ legible name ∈ keywords ∧ legible name ∉ reserved

instance (reserved : List String) : DecidablePred (HidesKeyword reserved) := fun _ =>
  inferInstanceAs (Decidable (_ ∧ _ ∧ _))

section Derived

variable {name text : String} (derived : plain name = .ok text)
include derived

theorem name_ne_empty_of_plain : name ≠ "" := by
  rintro rfl
  cases derived

theorem spelled_plain : Spelled text := by
  simp only [plain] at derived
  split at derived
  · cases derived
  · cases derived
    exact spelled_guardDigit fun c member => (List.mem_filter.1 member).2

/-- The plain form of a name is empty if nothing remains of the name. -/
theorem plain_eq_empty_iff : text = "" ↔ legible name = "" := by
  have same : plain name = .ok "" ↔ name ∉ keywords ∧ legible name = "" :=
    plain_eq_ok_iff (name_ne_empty_of_plain derived) (by simp)
  rw [derived, Except.ok.injEq] at same
  rw [same, and_iff_right_iff_imp]
  intro nothing keyword
  rw [legible_of_mem_keywords name keyword] at nothing
  exact name_ne_empty_of_plain derived nothing

/-- The plain form of a name is a keyword that does not give way if the name hides one. -/
theorem hidesKeyword_iff {reserved : List String} :
    HidesKeyword reserved name ↔ text ∈ keywords ∧ text ∉ reserved := by
  have plainForm {word : String} (keyword : word ∈ keywords) :=
    plain_eq_ok_iff (name_ne_empty_of_plain derived) (isAlpha_of_mem_keywords keyword)
  constructor
  · rintro ⟨escaped, keyword, free⟩
    have same := (plainForm keyword).2 ⟨escaped, rfl⟩
    rw [derived] at same
    cases same
    exact ⟨keyword, free⟩
  · rintro ⟨keyword, free⟩
    obtain ⟨escaped, rfl⟩ := (plainForm keyword).1 derived
    exact ⟨escaped, keyword, free⟩

end Derived

/-! ## Functions and members -/

theorem ne_empty_of_mem_builtins {name : String} (builtin : name ∈ builtins) : name ≠ "" := by
  rintro rfl
  exact absurd builtin (by decide +kernel)

theorem spelled_functionName {operation function : String}
    (derived : functionName operation = .ok function) : Spelled function := by
  obtain ⟨text, plainForm, rfl⟩ := map_eq_ok_iff.1 derived
  have spelled := spelled_plain plainForm
  split
  · next taken => exact spelled.append (ne_empty_of_mem_builtins taken) (by simp [isNameChar])
  · exact spelled

/-- The function of an operation has a name that can be one, unless nothing remains of the
operation's name or it hides a keyword. -/
theorem isName_functionName_iff {operation function : String}
    (derived : functionName operation = .ok function) :
    isName function = true ↔ legible operation ≠ "" ∧ ¬ HidesKeyword builtins operation := by
  obtain ⟨text, plainForm, rfl⟩ := map_eq_ok_iff.1 derived
  have spelled := spelled_plain plainForm
  rw [hidesKeyword_iff plainForm, ne_eq, ← plain_eq_empty_iff plainForm]
  split
  · next taken =>
      have nonempty := ne_empty_of_mem_builtins taken
      simp [isName_append_underscore spelled nonempty, nonempty, taken]
  · next free => simp [spelled.isName_iff, free]

/-- The name of a function that is a word of letters is what remains of the operation's name. -/
theorem functionName_eq_ok_iff {operation word : String} (named : operation ≠ "")
    (letters : ∀ c ∈ word.toList, c.isAlpha = true) (free : word ∉ builtins) :
    functionName operation = .ok word ↔ operation ∉ keywords ∧ legible operation = word := by
  rw [← plain_eq_ok_iff named letters, functionName, map_eq_ok_iff]
  constructor
  · rintro ⟨text, plainForm, derived⟩
    split at derived
    · rw [← derived] at letters
      exact absurd (letters '_' (by simp)) (by decide)
    · rwa [← derived]
  · intro plainForm
    exact ⟨word, plainForm, if_neg free⟩

/-- Of words of letters that are neither keywords nor always there, the name of a function is one
exactly if the same remains of the operation's name. -/
theorem functionName_mem_iff {words : List String} {operation function : String}
    (letters : ∀ word ∈ words, word.toList.all Char.isAlpha = true)
    (free : ∀ word ∈ words, word ∉ keywords ∧ word ∉ builtins)
    (derived : functionName operation = .ok function) :
    function ∈ words ↔ legible operation ∈ words := by
  have named : operation ≠ "" := by
    rintro rfl
    cases derived
  have derivedIff {word : String} (member : word ∈ words) :=
    functionName_eq_ok_iff named (List.all_eq_true.1 (letters word member)) (free word member).2
  constructor
  · intro member
    rwa [((derivedIff member).1 derived).2]
  · intro member
    -- A keyword would remain as it is.
    have escaped : operation ∉ keywords := by
      intro keyword
      rw [legible_of_mem_keywords operation keyword] at member
      exact (free operation member).1 keyword
    have found := (derivedIff member).2 ⟨escaped, rfl⟩
    rw [derived] at found
    cases found
    exact member

/-- Some names that are images of words, and are known to be by a mark that all images have, are the
images of no other words. -/
theorem image_mem_iff {taken words : List String} {image : String → String} {mark : String → Bool}
    (injective : Function.Injective image) (marked : ∀ word, mark (image word) = true)
    (found : taken.filter mark = words.map image) {word : String} :
    image word ∈ taken ↔ word ∈ words := by
  have kept : image word ∈ taken.filter mark ↔ image word ∈ taken := by
    rw [List.mem_filter, and_iff_left (marked word)]
  rw [← kept, found, List.mem_map_of_injective injective]

/-- An opening makes one of some names of a word if the word is what follows the opening in one of
those that start with it. -/
theorem append_mem_iff {taken tails : List String} {opening : String}
    (starts : taken.filter (fun known => (bytesOf opening).isPrefixOf (bytesOf known)) =
      tails.map (opening ++ ·)) {word : String} :
    opening ++ word ∈ taken ↔ word ∈ tails := by
  refine image_mem_iff (fun _ _ => (String.append_right_inj opening).1) (fun rest => ?_) starts
  exact StartsWith.isPrefixOf_bytesOf ⟨rest, rfl⟩

/-- An ending makes one of some names of a word if the word is what comes before the ending in one
of those that end with it. -/
theorem append_ending_mem_iff {taken stems : List String} {ending : String}
    (ends : taken.filter (fun known => (bytesOf ending).isSuffixOf (bytesOf known)) =
      stems.map (· ++ ending)) {word : String} :
    word ++ ending ∈ taken ↔ word ∈ stems := by
  refine image_mem_iff (fun _ _ => (String.append_left_inj ending).1) (fun stem => ?_) ends
  rw [bytesOf_append, List.isSuffixOf_iff_suffix]
  exact List.suffix_append ..

/-- The asynchronous function of an operation has a name that can be one, unless a letter in front
makes a keyword of what remains of the operation's name. -/
theorem isName_asyncName_iff {operation function : String}
    (derived : functionName operation = .ok function) :
    isName ("a" ++ function) = true ↔ "a" ++ legible operation ∉ keywords := by
  have letter : Spelled "a" := ⟨by simp [isNameChar, isWordChar, Char.isAlphanum], by simp⟩
  have spelled := letter.append (by decide) (spelled_functionName derived).chars
  have starts : keywords.filter (fun known => (bytesOf "a").isPrefixOf (bytesOf known)) =
      ["nd", "s", "ssert", "sync", "wait"].map ("a" ++ ·) := by decide +kernel
  rw [spelled.isName_iff, and_iff_right (by simp), not_iff_not, append_mem_iff starts,
    append_mem_iff starts]
  exact functionName_mem_iff (by decide +kernel) (by decide +kernel) derived

/-- The plain form of a name that is neither private nor empty as a member. -/
def visible (name : String) : String :=
  if name.isEmpty then "field"
  else if name.toList.head? = some '_' then "field" ++ name
  else name

theorem guardMember_eq (reserved : List String) (name : String) :
    guardMember reserved name =
      if visible name ∈ modelAttributes ∨ visible name ∈ reserved then visible name ++ "_"
      else visible name := rfl

theorem visible_of_mem_keywords : ∀ keyword ∈ keywords, visible keyword = keyword := by
  decide +kernel

theorem visible_mem_keywords_iff {name : String} :
    visible name ∈ keywords ↔ name ∈ keywords := by
  constructor
  · intro keyword
    simp only [visible] at keyword
    split at keyword
    · exact absurd keyword (by decide)
    · split at keyword
      · next marked =>
          have member : '_' ∈ ("field" ++ name).toList := by
            rw [String.toList_append]
            exact List.mem_append_right _ (List.mem_of_head? marked)
          exact absurd keyword (not_mem_keywords member (by decide))
      · exact keyword
  · intro keyword
    rwa [visible_of_mem_keywords name keyword]

theorem visible_ne_empty (name : String) : visible name ≠ "" := by
  simp only [visible]
  split
  · decide
  · next nonempty =>
      split
      · simp
      · simpa using nonempty

theorem Spelled.visible {name : String} (spelled : Spelled name) : Spelled (visible name) := by
  have field : Spelled "field" := ⟨by simp [isNameChar, isWordChar, Char.isAlphanum], by simp⟩
  simp only [Naming.visible]
  split
  · exact field
  · split
    · exact field.append (by decide) spelled.chars
    · exact spelled

theorem guardMember_ne_empty (reserved : List String) (name : String) :
    guardMember reserved name ≠ "" := by
  rw [guardMember_eq]
  split
  · simp
  · exact visible_ne_empty name

theorem Spelled.guardMember {name : String} (spelled : Spelled name) (reserved : List String) :
    Spelled (guardMember reserved name) := by
  rw [guardMember_eq]
  split
  · exact spelled.visible.append (visible_ne_empty name) (by simp [isNameChar])
  · exact spelled.visible

theorem member_ne_empty {reserved : List String} {name derivedName : String}
    (derived : member name reserved = .ok derivedName) : derivedName ≠ "" := by
  obtain ⟨text, -, rfl⟩ := map_eq_ok_iff.1 derived
  exact guardMember_ne_empty reserved text

theorem spelled_member {reserved : List String} {name derivedName : String}
    (derived : member name reserved = .ok derivedName) : Spelled derivedName := by
  obtain ⟨text, plainForm, rfl⟩ := map_eq_ok_iff.1 derived
  exact (spelled_plain plainForm).guardMember reserved

/-- A member has a name that can be one, unless the name that it is derived from hides a keyword. -/
theorem isName_member_iff {reserved : List String} {name derivedName : String}
    (derived : member name reserved = .ok derivedName) :
    isName derivedName = true ↔ ¬ HidesKeyword reserved name := by
  obtain ⟨text, plainForm, rfl⟩ := map_eq_ok_iff.1 derived
  have spelled := (spelled_plain plainForm).visible
  rw [hidesKeyword_iff plainForm, guardMember_eq]
  split
  · next taken =>
      have apart : ∀ keyword ∈ keywords, keyword ∉ modelAttributes := by decide +kernel
      refine iff_of_true (isName_append_underscore spelled (visible_ne_empty text)) ?_
      rintro ⟨keyword, free⟩
      rw [visible_of_mem_keywords text keyword] at taken
      exact taken.elim (apart text keyword) free
  · next free =>
      rw [spelled.isName_iff, and_iff_right (visible_ne_empty text), visible_mem_keywords_iff,
        not_iff_not, iff_self_and]
      intro keyword
      rw [visible_of_mem_keywords text keyword] at free
      exact fun reserved => free (.inr reserved)

/-! ## Classes -/

theorem isLower_head?_flatMap_capitalize (text : List Char) :
    ∀ c ∈ ((words text).flatMap capitalize).head?, c.isLower = false := by
  fun_induction words text with
  | case1 => simp
  | case2 c rest wordChar =>
      intro first start
      cases start
      exact Char.isLower_toUpper_eq_false c
  | case3 c rest other ih => exact ih

theorem isLower_head?_guardDigit {text : List Char}
    (capital : ∀ c ∈ text.head?, c.isLower = false) :
    ∀ c ∈ (guardDigit text).head?, c.isLower = false := by
  cases text with
  | nil => exact capital
  | cons first rest =>
      simp only [guardDigit]
      split
      · intro c start
        cases start
        decide
      · exact capital

/-- The name of a class does not start with a small letter. -/
theorem isLower_head?_className (name : String) :
    ∀ c ∈ (className name).toList.head?, c.isLower = false := by
  simp only [className]
  split
  · simp [unnamed]
  · rw [String.toList_ofList]
    exact isLower_head?_guardDigit (isLower_head?_flatMap_capitalize _)

/-- No class is called by a word with a small letter at its start. -/
theorem className_ne_of_isLower {word : String} (small : word.toList.head?.any Char.isLower = true)
    (name : String) : className name ≠ word := by
  rintro rfl
  obtain ⟨c, start, lower⟩ := (Option.any_eq_true _ _).1 small
  rw [isLower_head?_className name c start] at lower
  cases lower

theorem spelled_className (name : String) : Spelled (className name) := by
  simp only [className]
  split
  · exact ⟨by simp [unnamed, isNameChar, isWordChar, Char.isAlphanum], by simp [unnamed]⟩
  · refine spelled_guardDigit fun c member => ?_
    rw [← content_flatMap_capitalize] at member
    simp [isNameChar, (List.mem_filter.1 member).2]

/-- Names of classes that are keywords. -/
def keywordClasses : List String := ["False", "None", "True"]

/-- A class has a name that can be one, unless it is one of the keywords with a capital. -/
theorem isName_className_iff {name : String} :
    isName (className name) = true ↔ className name ∉ keywordClasses := by
  have capital : ∀ keyword ∈ keywords,
      (∀ c ∈ keyword.toList.head?, c.isLower = false) → keyword ∈ keywordClasses := by
    simp [keywords, keywordClasses]
  have all : keywordClasses ⊆ keywords := by decide +kernel
  rw [(spelled_className name).isName_iff, and_iff_right (className_ne_empty name), not_iff_not]
  exact ⟨fun keyword => capital _ keyword (isLower_head?_className name), fun member => all member⟩

/-- A class that goes on after the name of another with a capital P can have its name: no keyword
has that letter. -/
theorem isName_className_append {name more : String}
    (chars : more.toList.all isNameChar = true) (capital : 'P' ∈ more.toList) :
    isName (className name ++ more) = true := by
  have apart : ∀ keyword ∈ keywords, 'P' ∉ keyword.toList := by decide +kernel
  have chars := List.all_eq_true.1 chars
  rw [((spelled_className name).append (className_ne_empty name) chars).isName_iff]
  refine ⟨by simp [className_ne_empty], fun keyword => apart _ keyword ?_⟩
  rw [String.toList_append]
  exact List.mem_append_right _ capital

theorem isName_optionsClass (operation : String) : isName (optionsClass operation) = true :=
  isName_className_append (by decide) (by decide)

theorem isName_builderClass (operation : String) :
    isName (builderClass (optionsClass operation)) = true := by
  rw [builderClass, optionsClass, String.append_assoc]
  exact isName_className_append (by decide) (by decide)

end Bindery.Naming

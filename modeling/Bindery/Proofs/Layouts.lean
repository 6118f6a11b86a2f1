import Bindery.Display.Layout
import Bindery.Proofs.Escapes
import Mathlib.Data.List.Chain
import Mathlib.Data.List.TakeWhile

/-!
# Texts on lines

A text is drawn on any lines if its styles can be, since the styles on the lines are among those of
the text.  A text that fits is drawn line by line: a line is wrapped only if it takes more cells
than there are, because each word but the last ends with a blank, so the words of a line take no
more cells together than the line.
-/

namespace Bindery.Text

variable {line front back : List Char}

/-! ## Cells of parts of a line -/

theorem charCells_emojiSelector : charCells emojiSelector = 0 := by decide +kernel

/-- What stands before a line makes none of it narrower. -/
theorem cellsAfter_none_le (last : Option Char) (joins : Bool) (line : List Char) :
    cellsAfter none joins line ≤ cellsAfter last joins line := by
  induction line generalizing last joins with
  | nil => exact Nat.le_refl _
  | cons c rest ih =>
      simp only [cellsAfter]
      by_cases joined : joins = true
      · rw [if_pos joined, if_pos joined]
        exact ih last false
      rw [if_neg joined, if_neg joined]
      by_cases joiner : c = joiner
      · rw [if_pos joiner, if_pos joiner]
        exact ih last true
      rw [if_neg joiner, if_neg joiner, if_neg (by simp)]
      by_cases selects : (c = emojiSelector && last.any (widened.contains ·.toNat)) = true
      · rw [if_pos selects]
        obtain ⟨rfl, -⟩ : c = emojiSelector ∧ _ := by simpa using selects
        simp [charCells_emojiSelector]
      · rw [if_neg selects]
        split
        · exact Nat.add_le_add_left (ih last false) _
        · exact Nat.le_refl _

/-- The start of a line takes no more cells than the line. -/
theorem cellsAfter_le_append (last : Option Char) (joins : Bool) (front back : List Char) :
    cellsAfter last joins front ≤ cellsAfter last joins (front ++ back) := by
  induction front generalizing last joins with
  | nil => exact Nat.zero_le _
  | cons c rest ih =>
      simp only [List.cons_append, cellsAfter]
      split
      · exact ih last false
      split
      · exact ih last true
      split
      · exact Nat.add_le_add_left (ih none false) _
      · exact Nat.add_le_add_left (ih _ false) _

theorem cells_le_of_isPrefix (starts : front <+: line) : cells front ≤ cells line := by
  obtain ⟨back, rfl⟩ := starts
  exact cellsAfter_le_append none false front back

/-- A line takes no fewer cells than its two parts, unless a joiner puts the first character of the
second one into the cells of the first. -/
theorem cellsAfter_add_le_append (last : Option Char) (joins : Bool) {front : List Char}
    (back : List Char) (ends : ∀ c ∈ front.getLast?, c ≠ joiner)
    (inside : front = [] → joins = false) :
    cellsAfter last joins front + cells back ≤ cellsAfter last joins (front ++ back) := by
  induction front generalizing last joins with
  | nil =>
      rw [inside rfl, cellsAfter, Nat.zero_add]
      exact cellsAfter_none_le last false back
  | cons c rest ih =>
      have later : ∀ d ∈ rest.getLast?, d ≠ joiner := by
        cases rest with
        | nil => simp
        | cons d rest => simpa using ends
      simp only [List.cons_append, cellsAfter]
      split
      · exact ih last false later fun _ => rfl
      split
      · rename_i joiner
        refine ih last true later ?_
        rintro rfl
        exact absurd joiner (ends c (by simp))
      split
      · rw [Nat.add_assoc]
        exact Nat.add_le_add_left (ih none false later fun _ => rfl) _
      · rw [Nat.add_assoc]
        exact Nat.add_le_add_left (ih _ false later fun _ => rfl) _

theorem cells_add_le_append (back : List Char) (ends : ∀ c ∈ front.getLast?, c ≠ joiner) :
    cells front + cells back ≤ cells (front ++ back) :=
  cellsAfter_add_le_append none false back ends fun _ => rfl

/-! ## Words of a line -/

theorem flatten_runs (line : List Char) : (runs line).flatten = line := by
  induction line with
  | nil => rfl
  | cons c rest ih =>
      rw [runs]
      cases found : runs rest with
      | nil =>
          rw [found] at ih
          rw [← ih]
          rfl
      | cons run more =>
          rw [found] at ih
          dsimp only
          split
          · exact congrArg (c :: ·) ih
          · exact congrArg (c :: ·) ih

/-- A part of a line that ends with a blank. -/
def EndsBlank (part : List Char) : Prop := ∃ c ∈ part.getLast?, isBlank c = true

theorem EndsBlank.append (front : List Char) {part : List Char} (ends : EndsBlank part) :
    EndsBlank (front ++ part) := by
  obtain ⟨c, last, blank⟩ := ends
  refine ⟨c, ?_, blank⟩
  rw [List.getLast?_append, last]
  rfl

theorem endsBlank_runs (line : List Char) :
    (runs line).IsChain fun part _ => EndsBlank part := by
  induction line with
  | nil => exact .nil
  | cons c rest ih =>
      rw [runs]
      cases found : runs rest with
      | nil => exact .singleton _
      | cons run more =>
          rw [found] at ih
          dsimp only
          split
          · rename_i blank
            simp only [Bool.and_eq_true] at blank
            exact .cons_cons ⟨c, rfl, blank.1⟩ ih
          · cases ih with
            | singleton => exact .singleton _
            | cons_cons ends later => exact .cons_cons (EndsBlank.append [c] ends) later

theorem flatten_words (line : List Char) : (words line).flatten = line := by
  have whole := flatten_runs line
  rw [words]
  split
  · rename_i first second more found
    rw [found] at whole
    split
    · simpa using whole
    · exact whole
  · exact whole

theorem endsBlank_words (line : List Char) :
    (words line).IsChain fun part _ => EndsBlank part := by
  have chain := endsBlank_runs line
  rw [words]
  split
  · rename_i first second more found
    rw [found] at chain
    split
    · cases chain with
      | cons_cons _ later =>
        cases later with
        | singleton => exact .singleton _
        | cons_cons ends later => exact .cons_cons (EndsBlank.append first ends) later
    · exact chain
  · exact chain

/-! ## Lines that fit -/

theorem trimRight_isPrefix (line : List Char) : trimRight line <+: line := by
  have ends := List.reverse_prefix.2 (List.dropWhile_suffix (p := isBlank) (l := line.reverse))
  rwa [List.reverse_reverse] at ends

theorem wrapWords_of_fits {width : Nat} (folds : Bool) {words : List (List Char)} {taken : Nat}
    (chain : words.IsChain fun part _ => EndsBlank part)
    (fits : taken + cells words.flatten ≤ width) (line : List Char) :
    wrapWords width folds line taken words = [line ++ words.flatten] := by
  induction words generalizing line taken with
  | nil => simp [wrapWords]
  | cons word more ih =>
      have parts : cells word + cells more.flatten ≤ cells (word ++ more.flatten) := by
        cases chain with
        | singleton =>
          simp [cells, cellsAfter]
        | cons_cons ends _ =>
          obtain ⟨d, last, blank⟩ := ends
          refine cells_add_le_append _ fun c found => ?_
          rintro rfl
          cases last.symm.trans found
          exact absurd blank (by decide)
      have bare := cells_le_of_isPrefix (trimRight_isPrefix word)
      rw [List.flatten_cons] at fits ⊢
      rw [wrapWords]
      dsimp only
      rw [if_pos (by omega), ih chain.tail (by omega), List.append_assoc]

/-- A line that fits is not wrapped. -/
theorem wrap_of_fits {width : Nat} (folds : Bool) (fits : cells line ≤ width) :
    wrap width folds line = [line] := by
  have whole := flatten_words line
  rw [wrap, wrapWords_of_fits folds (endsBlank_words line) (by rwa [whole, Nat.zero_add]), whole]
  rfl

theorem trimEnd_isPrefix (width : Nat) (line : List Char) : trimEnd width line <+: line :=
  List.take_prefix _ _

theorem trimRight_isPrefix_trimEnd (width : Nat) (line : List Char) :
    trimRight line <+: trimEnd width line := by
  refine List.prefix_of_prefix_length_le (trimRight_isPrefix line) (trimEnd_isPrefix width line) ?_
  rw [trimEnd, List.length_take]
  have shorter := (trimRight_isPrefix line).length_le
  omega

/-! ## Lines of a text -/

theorem lines_eq_singleton {text : List Char} (one : (lines text).length ≤ 1) :
    lines text = [text] := by
  induction text with
  | nil => rfl
  | cons c rest ih =>
      rw [lines] at one ⊢
      split at one
      · have none : lines rest = [] := by simpa using one
        cases rest with
        | nil => cases none
        | cons d rest =>
            rw [lines] at none
            split at none
            · cases none
            · split at none <;> cases none
      · rename_i other
        rw [if_neg other]
        cases found : lines rest with
        | nil =>
            rw [found] at ih
            cases ih (Nat.zero_le _)
        | cons line more =>
            rw [found] at one ih
            cases ih (by simpa using one)
            rfl

theorem lines_eq_split {text : List Char} (plain : ∀ c ∈ text, isLineBreak c = true → c = '\n') :
    lines text = split isLineBreak text := by
  induction text with
  | nil => rfl
  | cons c rest ih =>
      obtain ⟨first, later⟩ := List.forall_mem_cons.1 plain
      rw [lines, split, ih later]
      by_cases feed : c = '\n'
      · subst feed
        rfl
      · exact (if_neg feed).trans (if_neg (mt first feed)).symm

theorem le_foldl_max {number : Nat} {list : List Nat} {start : Nat}
    (member : number ≤ start ∨ number ∈ list) : number ≤ list.foldl max start := by
  induction list generalizing start with
  | nil => simpa using member
  | cons first rest ih =>
      apply ih
      rw [List.mem_cons] at member
      obtain small | rfl | later := member
      · exact .inl (Nat.le_trans small (Nat.le_max_left _ _))
      · exact .inl (Nat.le_max_right _ _)
      · exact .inr later

theorem trimRight_append {front blanks : List Char} (blank : ∀ c ∈ blanks, isBlank c = true) :
    trimRight (front ++ blanks) = trimRight front := by
  rw [trimRight, trimRight, List.reverse_append, List.dropWhile_append_of_pos]
  simpa using blank

theorem exists_trimRight_append (line : List Char) :
    ∃ blanks, line = trimRight line ++ blanks ∧ ∀ c ∈ blanks, isBlank c = true := by
  refine ⟨(line.reverse.takeWhile isBlank).reverse, ?_, ?_⟩
  · rw [trimRight, ← List.reverse_append, List.takeWhile_append_dropWhile, List.reverse_reverse]
  · intro c member
    exact List.mem_takeWhile_imp (List.mem_reverse.1 member)

/-- The blanks that are left at the end of a line do not matter where all of them are taken off. -/
theorem trimRight_trimEnd (width : Nat) (line : List Char) :
    trimRight (trimEnd width line) = trimRight line := by
  obtain ⟨blanks, same, blank⟩ := exists_trimRight_append line
  obtain ⟨rest, kept⟩ := trimRight_isPrefix_trimEnd width line
  have among : ∀ c ∈ rest, isBlank c = true := by
    obtain ⟨last, whole⟩ := trimEnd_isPrefix width line
    rw [← kept, List.append_assoc] at whole
    have parts : rest ++ last = blanks := List.append_cancel_left (whole.trans same)
    exact fun c member => blank c (parts ▸ List.mem_append_left _ member)
  rw [← kept, trimRight_append among]
  conv_rhs => rw [same, trimRight_append blank]

end Bindery.Text

namespace Bindery.Display

open Bindery.Steps Bindery.Text

namespace Markup

/-! ## Styles of parts -/

/-- All styles of a text have a property. -/
def Shown.Styled (holds : String → Prop) (shown : Shown) : Prop :=
  ∀ span ∈ shown.spans, holds span.style

namespace Shown.Styled

variable {holds : String → Prop} {shown : Shown}

theorem slice (styled : shown.Styled holds) (before : Nat) (part : List Char) :
    (shown.slice before part).Styled holds := by
  intro span member
  obtain ⟨other, inShown, found⟩ := List.mem_filterMap.1 member
  dsimp only at found
  split at found
  · cases found
    exact styled other inShown
  · cases found

theorem slices (styled : shown.Styled holds) (separator before : Nat) (parts : List (List Char)) :
    ∀ part ∈ shown.slices separator before parts, part.Styled holds := by
  induction parts generalizing before with
  | nil => simp [Shown.slices]
  | cons part more ih => exact List.forall_mem_cons.2 ⟨styled.slice before part, ih _⟩

theorem divide (styled : shown.Styled holds) (separator : Nat) (parts : List (List Char)) :
    ∀ part ∈ shown.divide separator parts, part.Styled holds := by
  rw [Shown.divide]
  split
  · exact List.forall_mem_singleton.2 styled
  · exact styled.slices separator 0 parts

theorem become (styled : shown.Styled holds) (text : List Char) :
    (shown.become text).Styled holds := by
  intro span member
  simp only [Shown.become] at member
  split at member
  · exact styled span (List.mem_of_mem_filter member)
  · exact styled span member

theorem concat {second : Shown} (styled : shown.Styled holds) (later : second.Styled holds) :
    (shown.concat second).Styled holds := by
  intro span member
  obtain first | other := List.mem_append.1 member
  · exact styled span first
  · obtain ⟨moved, inSecond, rfl⟩ := List.mem_map.1 other
    exact later moved inSecond

theorem leadOn (styled : shown.Styled holds) (before : Nat) :
    (shown.leadOn before).Styled holds := by
  intro span member
  obtain ⟨other, inShown, rfl⟩ := List.mem_map.1 member
  split
  · exact styled other inShown
  · exact styled other inShown

theorem expandParts {parts : List Shown} (styled : ∀ part ∈ parts, part.Styled holds)
    (before : Nat) : (Shown.expandParts before parts).Styled holds := by
  induction parts generalizing before with
  | nil => simp [Shown.expandParts, Styled]
  | cons part more ih =>
      obtain ⟨first, later⟩ := List.forall_mem_cons.1 styled
      cases more with
      | nil => exact first
      | cons next more => exact (first.leadOn before).concat (ih later _)

theorem expandTabs (styled : shown.Styled holds) : shown.expandTabs.Styled holds := by
  rw [Shown.expandTabs]
  split
  · exact expandParts (styled.slices _ _ _) 0
  · exact styled

end Shown.Styled

theorem Shown.map_text_slices (shown : Shown) (separator before : Nat) (parts : List (List Char)) :
    (shown.slices separator before parts).map (·.text) = parts := by
  induction parts generalizing before with
  | nil => rfl
  | cons part more ih => exact congrArg (part :: ·) (ih _)

theorem Shown.map_text_lines (shown : Shown) :
    shown.lines.map (·.text) = Text.lines shown.text := by
  rw [lines, divide]
  split
  · rename_i one
    exact (lines_eq_singleton one).symm
  · exact shown.map_text_slices 1 0 _

end Markup

/-! ## Drawing -/

namespace Layout

open Markup

variable {layout : Layout} {shown : Shown} {drawn : List (List Char)}

theorem styled_lay {holds : String → Prop} (styled : shown.Styled holds) :
    ∀ line ∈ layout.lay shown, line.Styled holds := by
  have finish {line : Shown} (styled : line.Styled holds) : (layout.finish line).Styled holds := by
    rw [Layout.finish]
    split
    · exact ((styled.become _).become _).become _
    · exact (styled.become _).become _
  intro line member
  rw [lay] at member
  split at member
  · cases member
  obtain ⟨part, inLines, member⟩ := List.mem_flatMap.1 member
  have expanded := (styled.divide 1 _ part inLines).expandTabs
  simp only [arrange] at member
  obtain ⟨piece, inParts, rfl⟩ := List.mem_map.1 member
  split at inParts
  · exact finish (expanded.divide 0 _ piece inParts)
  · rw [List.mem_singleton.1 inParts]
    exact finish expanded

/-- A text is drawn if all styles that are left on its lines can be. -/
theorem draw_eq_ok_iff :
    layout.draw shown = .ok drawn ↔
      (∀ line ∈ layout.lay shown, line.Styled Drawable) ∧
        drawn = (layout.lay shown).map fun line => layout.fill line.text := by
  have parsed (span : Span) :
      ((Style.parse span.style).mapError Error.level |>.map fun _ => ()) = .ok () ↔
        Drawable span.style := by
    simp [map_eq_ok_iff, mapError_eq_ok_iff, Drawable]
  rw [draw, bind_eq_ok_iff]
  simp only [forM_eq_ok_iff, parsed]
  constructor
  · rintro ⟨_, drawable, done⟩
    cases done
    exact ⟨drawable, rfl⟩
  · rintro ⟨drawable, rfl⟩
    exact ⟨(), drawable, rfl⟩

theorem exists_draw (styled : shown.Styled Drawable) : ∃ drawn, layout.draw shown = .ok drawn :=
  ⟨_, draw_eq_ok_iff.2 ⟨styled_lay styled, rfl⟩⟩

theorem exists_drawMarkup {markup : String} (legible : Legible markup) (layout : Layout) :
    ∃ drawn, layout.drawMarkup markup = .ok drawn := by
  obtain ⟨shown, read, styled⟩ := legible
  obtain ⟨drawn, done⟩ : ∃ drawn, layout.draw shown = .ok drawn := exists_draw styled
  exact ⟨drawn, bind_eq_ok_iff.2 ⟨shown, read, done⟩⟩

/-! ## Texts that fit -/

/-- A text fits lines of some cells: it has no tabs, and none of its own lines takes more of
them. -/
def Fits (width : Nat) (text : List Char) : Prop :=
  ∀ line ∈ Text.lines text, '\t' ∉ line ∧ cells line ≤ width

/-- A line that fits, before it is filled with blanks. -/
def kept (layout : Layout) (line : List Char) : List Char :=
  if layout.alignment.any (·.trims) then trimRight (trimEnd layout.width line)
  else trimEnd layout.width line

theorem kept_isPrefix (layout : Layout) (line : List Char) : layout.kept line <+: line := by
  have ends := trimEnd_isPrefix layout.width line
  rw [kept]
  split
  · exact (trimRight_isPrefix _).trans ends
  · exact ends

/-- A line that fits keeps all but blanks at its end. -/
theorem trimRight_isInfix_fill (layout : Layout) (line : List Char) :
    trimRight line <:+: layout.fill (layout.kept line) := by
  have within : trimRight line <:+: layout.kept line := by
    rw [kept]
    split
    · exact (trimRight_trimEnd layout.width line).symm ▸ List.infix_rfl
    · exact (trimRight_isPrefix_trimEnd layout.width line).isInfix
  refine within.trans ?_
  rw [fill]
  split
  · rename_i alignment _
    cases alignment with
    | left => exact ⟨[], _, rfl⟩
    | center => exact ⟨_, _, rfl⟩
    | right => exact ⟨_, [], List.append_nil _⟩
  · exact List.infix_rfl

theorem text_finish {line : Shown} (fits : cells line.text ≤ layout.width) :
    (layout.finish line).text = layout.kept line.text := by
  have short := (cells_le_of_isPrefix (layout.kept_isPrefix line.text)).trans fits
  rw [kept] at short ⊢
  rw [finish]
  split
  · rename_i trimmed
    rw [if_pos trimmed] at short
    exact if_pos short
  · rename_i trimmed
    rw [if_neg trimmed] at short
    exact if_pos short

theorem map_text_arrange {line : Shown} (noTab : '\t' ∉ line.text)
    (fits : cells line.text ≤ layout.width) :
    (layout.arrange line).map (·.text) = [layout.kept line.text] := by
  have same : line.expandTabs = line := by
    rw [Shown.expandTabs, if_neg (by simpa using noTab)]
  have whole : line.divide 0 [line.text] = [line] := if_pos (Nat.le_refl 1)
  rw [arrange, same, wrap_of_fits _ fits, whole, ite_self, List.map_singleton, List.map_singleton,
    text_finish fits]

/-- A text that fits is drawn line by line. -/
theorem draw_of_fits (room : 0 < layout.width) (fits : Fits layout.width shown.text)
    (done : layout.draw shown = .ok drawn) :
    drawn = (Text.lines shown.text).map fun line => layout.fill (layout.kept line) := by
  obtain ⟨-, rfl⟩ := draw_eq_ok_iff.1 done
  have texts : (layout.lay shown).map (·.text) = (Text.lines shown.text).map layout.kept := by
    rw [lay, if_neg (Nat.ne_of_gt room), List.map_flatMap, ← shown.map_text_lines]
    have fits : ∀ line ∈ Text.lines shown.text, '\t' ∉ line ∧ Text.cells line ≤ layout.width := fits
    rw [← shown.map_text_lines] at fits
    rw [List.map_map, List.map_eq_flatMap]
    refine List.flatMap_congr fun line member => ?_
    obtain ⟨noTab, narrow⟩ := fits _ (List.mem_map_of_mem member)
    exact map_text_arrange noTab narrow
  simpa [List.map_map, Function.comp_def] using congrArg (List.map layout.fill) texts

/-- A text without tabs and without ends of lines but line feeds fits lines that are as wide as its
widest one. -/
theorem fits_of_widest {width : Nat} {text : List Char} (noTab : '\t' ∉ text)
    (plain : ∀ c ∈ text, isLineBreak c = true → c = '\n') (wide : widest text ≤ width) :
    Fits width text := by
  intro line member
  rw [lines_eq_split plain] at member
  refine ⟨fun inLine => noTab (mem_of_mem_split member inLine), ?_⟩
  exact (le_foldl_max (.inr (List.mem_map_of_mem member))).trans wide

end Layout

end Bindery.Display

import Bindery.Proofs.Escapes

/-!
# Markup that is shown as it stands

A text in markup is shown as it stands exactly if no tag starts in it, not even one that ends in
what follows the text, no backslash in it stands before a bracket, and a screen acts on none of its
characters.  Whatever else stands in it, an opening bracket or a backslash is lost: what is shown
never has more of them than the markup.
-/

namespace Bindery.Display.Markup

open Bindery.Steps

/-! ## What tokens show -/

/-- What is shown of a token. -/
def Token.visible : Token → List Char
  | tag count inside => bars (count / 2) ++ if count % 2 = 0 then [] else '[' :: inside ++ [']']
  | token => token.plain

/-- What is shown of markup without emoji on a screen that acts on no character. -/
def visible (markup : List Char) : List Char := (tokens markup).flatMap Token.visible

variable {text after inside : List Char} {count : Nat}

theorem visible_tag (count : Nat)
    (found : tag? ('[' :: inside ++ ']' :: after) = some (inside, after)) :
    visible (bars count ++ ('[' :: inside ++ ']' :: after)) =
      (Token.tag count inside).visible ++ visible after := by
  rw [visible, (Spelled.tag count found (spelled_tokens after)).tokens_eq]
  rfl

theorem visible_bars (count : Nat) (ends : after.head? ≠ some '\\') (none : tag? after = none) :
    visible (bars (count + 1) ++ after) =
      bars (if after.head? = some '[' then count else count + 1) ++ visible after := by
  rw [visible, (Spelled.backslashes count ends none (spelled_tokens after)).tokens_eq]
  change bars (if decide (after.head? = some '[') = true then count else count + 1) ++ _ = _
  simp only [decide_eq_true_eq]
  rfl

theorem visible_cons {c : Char} (only : c ≠ '\\') (none : tag? (c :: after) = none) :
    visible (c :: after) = c :: visible after := by
  rw [visible, (Spelled.char only none (spelled_tokens after)).tokens_eq]
  rfl

theorem visible_append_of_free (after : List Char) (free : ∀ c ∈ text, c ≠ '\\' ∧ c ≠ '[') :
    visible (text ++ after) = text ++ visible after := by
  rw [visible, tokens_append after free, List.flatMap_append, List.flatMap_map]
  exact congrArg (· ++ visible after) (List.flatMap_singleton' text)

theorem visible_opening (found : tag? text = some (inside, after)) :
    visible text = visible after := by
  rw [visible, tokens_tag found]
  rfl

/-! ## Texts without tags -/

/-- No tag starts in a text wherever another text follows it, and no backslash in it escapes a
bracket. -/
structure Verbatim (text after : List Char) : Prop where
  noTag : ∀ rest, rest <:+ text → rest ≠ [] → tag? (rest ++ after) = none
  noEscape : ¬ ['\\', '['] <:+: text

theorem verbatim_nil (after : List Char) : Verbatim [] after where
  noTag _ ending nonempty := absurd (List.suffix_nil.1 ending) nonempty
  noEscape within := by simpa using within.length_le

namespace Verbatim

theorem cons {c : Char} (verbatim : Verbatim text after) (noTag : tag? (c :: text ++ after) = none)
    (apart : c = '\\' → text.head? ≠ some '[') : Verbatim (c :: text) after := by
  constructor
  · intro rest ending nonempty
    obtain same | later := List.suffix_cons_iff.1 ending
    · rw [same]
      exact noTag
    · exact verbatim.noTag rest later nonempty
  · intro within
    obtain starts | later := List.infix_cons_iff.1 within
    · obtain ⟨same, starts⟩ := List.cons_prefix_cons.1 starts
      obtain ⟨more, same'⟩ := starts
      rw [← same'] at apart
      exact apart same.symm rfl
    · exact verbatim.noEscape later

theorem of_append {front : List Char} (verbatim : Verbatim (front ++ text) after) :
    Verbatim text after where
  noTag rest ending := verbatim.noTag rest (ending.trans (List.suffix_append front text))
  noEscape within := verbatim.noEscape (within.trans (List.suffix_append front text).isInfix)

theorem bars_append (count : Nat) (verbatim : Verbatim text after)
    (apart : text.head? ≠ some '[') : Verbatim (bars count ++ text) after := by
  induction count with
  | zero => exact verbatim
  | succ count ih =>
      refine .cons ih (tag?_eq_none (by decide) _) fun _ => ?_
      cases count with
      | zero => exact apart
      | succ count => exact ne_of_apply_ne (Option.getD · 'x') (by decide : '\\' ≠ '[')

end Verbatim

section

variable (apart : after.head? ≠ some '\\' ∧ after.head? ≠ some '[')
include apart

theorem head?_append_ne (ends : text.head? ≠ some '\\') : (text ++ after).head? ≠ some '\\' := by
  cases text with
  | nil => exact apart.1
  | cons c rest => exact ends

theorem tag?_eq_none_of_apart : tag? after = none := by
  cases after with
  | nil => rfl
  | cons c after => exact tag?_eq_none (by simpa using apart.2) after

/-- A text without tags adds tokens that are no tags to those of what follows it. -/
theorem Verbatim.exists_tokens (verbatim : Verbatim text after) :
    ∃ front, tokens (text ++ after) = front ++ tokens after ∧
      front.flatMap Token.visible = text ∧ ∀ token ∈ front, token.IsPlain := by
  induction length : text.length using Nat.strongRecOn generalizing text with
  | ind size ih =>
      subst length
      obtain ⟨count, same, ends⟩ := exists_bars text
      generalize afterBackslashes text = middle at same ends
      subst same
      cases count with
      | zero =>
          cases middle with
          | nil => exact ⟨[], rfl, rfl, by simp⟩
          | cons c rest =>
              have none := verbatim.noTag (c :: rest) (List.suffix_refl _) (by simp)
              have verbatim : Verbatim ([c] ++ rest) after := verbatim
              obtain ⟨front, same, shown, plain⟩ :=
                ih rest.length (Nat.lt_succ_self _) verbatim.of_append rfl
              refine ⟨.char c :: front, ?_, congrArg (c :: ·) shown,
                List.forall_mem_cons.2 ⟨trivial, plain⟩⟩
              have spelled := Spelled.char (by simpa using ends) none (spelled_tokens _)
              exact spelled.tokens_eq.trans (congrArg (Token.char c :: ·) same)
      | succ count =>
          have none : tag? (middle ++ after) = none := by
            cases middle with
            | nil => exact tag?_eq_none_of_apart apart
            | cons c rest => exact verbatim.noTag _ (List.suffix_append _ _) (by simp)
          have noBracket : (middle ++ after).head? ≠ some '[' := by
            cases middle with
            | nil => exact apart.2
            | cons c rest =>
                intro bracket
                cases bracket
                refine verbatim.noEscape ⟨bars count, rest, ?_⟩
                simp [bars, List.replicate_succ']
          have shorter : middle.length < (bars (count + 1) ++ middle).length := by
            simp [bars]
          obtain ⟨front, same, shown, plain⟩ := ih middle.length shorter verbatim.of_append rfl
          refine ⟨.backslashes (count + 1) false :: front, ?_, ?_,
            List.forall_mem_cons.2 ⟨trivial, plain⟩⟩
          · have spelled := Spelled.backslashes count (head?_append_ne apart ends) none
              (spelled_tokens _)
            rw [decide_eq_false noBracket, ← List.append_assoc] at spelled
            exact spelled.tokens_eq.trans (congrArg (Token.backslashes _ false :: ·) same)
          · exact congrArg (bars (count + 1) ++ ·) shown

/-- A text without tags is visible before what follows it. -/
theorem Verbatim.visible_append (verbatim : Verbatim text after) :
    visible (text ++ after) = text ++ visible after := by
  obtain ⟨front, same, shown, -⟩ := verbatim.exists_tokens apart
  rw [visible, same, List.flatMap_append, shown]
  rfl

theorem Verbatim.plain_append (verbatim : Verbatim text after) (plain : Plain after) :
    Plain (text ++ after) := by
  obtain ⟨front, same, -, first⟩ := verbatim.exists_tokens apart
  rw [Plain, same, List.forall_mem_append]
  exact ⟨first, plain⟩

end

theorem Verbatim.plain (verbatim : Verbatim text []) : Plain text := by
  have plain := verbatim.plain_append (by decide) (by simp [Plain, tokens])
  rwa [List.append_nil] at plain

theorem verbatim_of_not_mem (none : '[' ∉ text) (after : List Char) : Verbatim text after := by
  constructor
  · intro rest ending nonempty
    cases rest with
    | nil => exact absurd rfl nonempty
    | cons c rest =>
        exact tag?_eq_none (fun same => none (ending.subset (same ▸ List.mem_cons_self))) _
  · intro within
    exact none (within.subset (by simp))

/-! ## What is lost -/

/-- A character that has a meaning in markup. -/
def isMark (c : Char) : Bool := c = '[' || c = '\\'

/-- How many characters of a text have a meaning in markup. -/
def marks (text : List Char) : Nat := text.countP isMark

theorem marks_append (text after : List Char) : marks (text ++ after) = marks text + marks after :=
  List.countP_append

theorem marks_bars (count : Nat) : marks (bars count) = count := by
  rw [marks, bars, List.countP_replicate, if_pos (by decide)]

theorem marks_bracket (text : List Char) : marks ('[' :: text) = marks text + 1 :=
  List.countP_cons_of_pos (by decide)

theorem marks_cons {c : Char} (text : List Char) : marks (c :: text) = marks [c] + marks text :=
  marks_append [c] text

/-- A tag is shown with fewer marks than it is spelled with. -/
theorem marks_visible_tag (count : Nat) (inside : List Char) :
    marks (Token.tag count inside).visible < count + marks ('[' :: inside ++ [']']) := by
  rw [Token.visible, marks_append, marks_bars]
  by_cases even : count % 2 = 0
  · rw [if_pos even, List.cons_append, marks_bracket]
    change count / 2 + 0 < _
    omega
  · rw [if_neg even]
    omega

theorem not_mem_of_inside? (found : inside? text = some (inside, after)) : '[' ∉ inside := by
  induction text generalizing inside with
  | nil => cases found
  | cons c text ih =>
      rw [inside?] at found
      by_cases closes : c = ']'
      · rw [if_pos closes] at found
        cases found
        simp
      by_cases opens : c = '['
      · rw [if_neg closes, if_pos opens] at found
        cases found
      rw [if_neg closes, if_neg opens] at found
      obtain ⟨⟨inner, later⟩, here, same⟩ := Option.map_eq_some_iff.1 found
      cases same
      rw [List.mem_cons, not_or]
      exact ⟨Ne.symm opens, ih here⟩

theorem not_mem_of_tag? (found : tag? text = some (inside, after)) : '[' ∉ inside := by
  unfold tag? at found
  split at found
  · split at found
    · rename_i starts
      obtain ⟨⟨inner, later⟩, here, same⟩ := Option.map_eq_some_iff.1 found
      cases same
      rw [List.mem_cons, not_or]
      refine ⟨?_, not_mem_of_inside? here⟩
      rintro rfl
      exact absurd starts (by decide)
    · cases found
  · cases found

/-- What remains of a tag is visible where the tag does not start. -/
theorem visible_append_of_tag {front beyond : List Char} (none : '[' ∉ inside)
    (same : '[' :: inside ++ [']'] = front ++ beyond) (starts : front ≠ []) (after : List Char) :
    visible (beyond ++ after) = beyond ++ visible after := by
  obtain rfl | ⟨inner, last, rfl⟩ := List.eq_nil_or_concat' beyond
  · rfl
  obtain ⟨first, more, rfl⟩ := List.exists_cons_of_ne_nil starts
  rw [← List.append_assoc] at same
  obtain ⟨opens, closes⟩ := List.append_inj' same rfl
  obtain ⟨-, split⟩ := List.cons.inj opens
  cases closes
  have plain : '[' ∉ inner := fun member => none (split ▸ List.mem_append_right _ member)
  rw [List.append_assoc, (verbatim_of_not_mem plain _).visible_append (by simp),
    List.singleton_append, visible_cons (by decide) (tag?_eq_none (by decide) _),
    List.append_assoc]
  rfl

/-- A text that starts with a tag is shown with fewer marks than it has, wherever the tag ends, if
what remains of it after the tag is not shown with more. -/
theorem marks_visible_lt_of_tag {middle following : List Char} (count : Nat)
    (nonempty : middle ≠ [])
    (found : tag? (middle ++ after) = some (inside, following))
    (bound : ∀ beyond : List Char, beyond.length < middle.length →
      marks (visible (beyond ++ after)) ≤ marks beyond + marks (visible after)) :
    marks (visible (bars count ++ (middle ++ after))) <
      count + marks middle + marks (visible after) := by
  have spelled := eq_append_of_tag? found
  have lost := marks_visible_tag count inside
  have shown := visible_tag count (spelled ▸ found)
  rw [spelled, shown, marks_append]
  suffices fewer : marks ('[' :: inside ++ [']']) + marks (visible following) ≤
      marks middle + marks (visible after) by omega
  have parts : middle ++ after = ('[' :: inside ++ [']']) ++ following := by
    rw [spelled, List.append_assoc]
    rfl
  obtain ⟨rest, same, rfl⟩ | ⟨beyond, rfl, rfl⟩ := List.append_eq_append_iff.1 parts
  · -- The tag ends in the text after.
    refine Nat.le_of_eq ?_
    rw [visible_append_of_tag (not_mem_of_tag? found) same nonempty, same, marks_append,
      marks_append, Nat.add_assoc]
  · have kept := bound beyond (by simp only [List.length_append, List.length_cons]; omega)
    rw [marks_append ('[' :: inside ++ [']'])]
    omega

/-- What is shown of a text before another one has no more marks than the text, and as many only if
no tag starts in it and no backslash in it escapes a bracket. -/
theorem marks_visible_append (apart : after.head? ≠ some '\\' ∧ after.head? ≠ some '[') :
    marks (visible (text ++ after)) ≤ marks text + marks (visible after) ∧
      (marks (visible (text ++ after)) = marks text + marks (visible after) →
        Verbatim text after) := by
  induction length : text.length using Nat.strongRecOn generalizing text with
  | ind size ih =>
      subst length
      obtain ⟨count, same, ends⟩ := exists_bars text
      generalize afterBackslashes text = middle at same ends
      subst same
      have ends := head?_append_ne apart ends
      cases found : tag? (middle ++ after) with
      | some pair =>
          have nonempty : middle ≠ [] := by
            rintro rfl
            cases found.symm.trans (tag?_eq_none_of_apart apart)
          have shorter {beyond : List Char} (less : beyond.length < middle.length) :
              beyond.length < (bars count ++ middle).length := by
            rw [List.length_append]
            omega
          have lost := marks_visible_lt_of_tag count nonempty found fun beyond less =>
            (ih beyond.length (shorter less) rfl).1
          rw [List.append_assoc, marks_append, marks_bars]
          exact ⟨Nat.le_of_lt lost, fun same => absurd same (Nat.ne_of_lt lost)⟩
      | none =>
          cases count with
          | zero =>
              cases middle with
              | nil => exact ⟨Nat.le_add_left _ _, fun _ => verbatim_nil after⟩
              | cons c rest =>
                  have only : c ≠ '\\' := by simpa using ends
                  obtain ⟨bound, verbatim⟩ := ih rest.length (Nat.lt_succ_self _) rfl
                  have shown : visible (bars 0 ++ c :: rest ++ after) =
                      c :: visible (rest ++ after) := visible_cons only found
                  have size : marks (bars 0 ++ c :: rest) = marks [c] + marks rest :=
                    marks_cons rest
                  rw [shown, size, marks_cons (visible _)]
                  refine ⟨by omega, fun same => (verbatim (by omega)).cons found ?_⟩
                  exact fun bar => absurd bar only
          | succ count =>
              have shorter : middle.length < (bars (count + 1) ++ middle).length := by
                simp [bars]
              obtain ⟨bound, verbatim⟩ := ih middle.length shorter rfl
              rw [List.append_assoc, visible_bars count ends found, marks_append, marks_append,
                marks_bars, marks_bars]
              by_cases bracket : (middle ++ after).head? = some '['
              · rw [if_pos bracket]
                exact ⟨by omega, fun same => by omega⟩
              · rw [if_neg bracket]
                refine ⟨by omega, fun same => (verbatim (by omega)).bars_append _ ?_⟩
                rintro starts
                cases middle with
                | nil => cases starts
                | cons c rest => exact bracket starts

/-! ## Characters that a screen acts on -/

/-- A text without the characters that a screen would act on. -/
def withoutControls (text : List Char) : List Char := text.filter (! isControl ·)

/-- A text is shown as it stands where another text follows it. -/
def ShownExactly (text after : List Char) : Prop :=
  Verbatim text after ∧ ∀ c ∈ text, isControl c = false

theorem withoutControls_append (text after : List Char) :
    withoutControls (text ++ after) = withoutControls text ++ withoutControls after :=
  List.filter_append _ _

theorem marks_withoutControls (text : List Char) : marks (withoutControls text) = marks text := by
  rw [marks, withoutControls, List.countP_filter]
  congr 1
  funext c
  by_cases mark : isMark c = true
  · have none : isControl c = false := by
      obtain rfl | rfl : c = '[' ∨ c = '\\' := by simpa [isMark] using mark
      all_goals decide
    rw [mark, none]
    rfl
  · rw [Bool.not_eq_true] at mark
    rw [mark, Bool.false_and]

/-- What is shown of markup that starts with a text is the text and what is shown of the rest,
exactly if the text is shown as it stands. -/
theorem withoutControls_visible_append_iff
    (apart : after.head? ≠ some '\\' ∧ after.head? ≠ some '[') :
    withoutControls (visible (text ++ after)) = text ++ withoutControls (visible after) ↔
      ShownExactly text after := by
  constructor
  · intro same
    have size := congrArg marks same
    rw [marks_withoutControls, marks_append, marks_withoutControls] at size
    have verbatim := (marks_visible_append apart).2 size
    rw [verbatim.visible_append apart, withoutControls_append, List.append_left_inj] at same
    refine ⟨verbatim, ?_⟩
    simpa [withoutControls] using same
  · intro exactly
    obtain ⟨verbatim, none⟩ := exactly
    rw [verbatim.visible_append apart, withoutControls_append, List.append_left_inj]
    simpa [withoutControls] using none

/-! ## Pieces that are shown -/

/-- The characters of a piece that is text. -/
def Piece.chars : Piece → List Char
  | .text chars => chars
  | .tag _ => []

theorem flatMap_chars_piecesFrom (before : List Char) (list : List Token) :
    (piecesFrom before list).flatMap Piece.chars =
      before.reverse ++ list.flatMap Token.visible := by
  induction list generalizing before with
  | nil => simp [piecesFrom, Piece.chars]
  | cons token rest ih =>
      cases token with
      | tag count inside =>
          rw [piecesFrom, tagPieces, List.flatMap_cons, Token.visible]
          by_cases even : count % 2 = 0
          · simp [even, ih, Piece.chars]
          · simp [even, ih, Piece.chars]
      | backslashes count bracket =>
          rw [piecesFrom, ih, List.reverse_append, List.reverse_reverse, List.append_assoc]
          rfl
          all_goals simp
      | char c =>
          rw [piecesFrom, ih, List.reverse_append, List.reverse_reverse, List.append_assoc]
          rfl
          all_goals simp

theorem flatMap_chars_pieces (markup : List Char) :
    (pieces markup).flatMap Piece.chars = visible markup :=
  flatMap_chars_piecesFrom [] (tokens markup)

theorem text_foldl_close (shown : Shown) (opened : List Opened) :
    (opened.foldl Shown.close shown).text = shown.text := by
  induction opened generalizing shown with
  | nil => rfl
  | cons tag outer ih => exact ih (shown.close tag)

/-- A tag leaves the text alone. -/
theorem text_showTag {shown next : Shown} {opened more : List Opened}
    (taken : showTag shown opened inside = .ok (next, more)) : next.text = shown.text := by
  rw [showTag] at taken
  split at taken
  · obtain ⟨⟨tag, outer⟩, -, closed⟩ := bind_eq_ok_iff.1 taken
    dsimp only at closed
    split at closed
    · split at closed
      · cases closed
        rfl
      · cases closed
    · cases closed
      rfl
  · obtain ⟨style, -, opens⟩ := bind_eq_ok_iff.1 taken
    cases opens
    rfl

theorem text_showPieces {shown result : Shown} {opened : List Opened} {pieces : List Piece}
    (noEmoji : ∀ chars, .text chars ∈ pieces → withEmoji chars = chars)
    (done : showPieces shown opened pieces = .ok result) :
    result.text = shown.text ++ withoutControls (pieces.flatMap Piece.chars) := by
  induction pieces generalizing shown opened with
  | nil =>
      cases done
      rw [text_foldl_close]
      exact (List.append_nil _).symm
  | cons piece rest ih =>
      have others := fun chars member => noEmoji chars (List.mem_cons_of_mem _ member)
      rw [List.flatMap_cons, withoutControls_append]
      cases piece with
      | text chars =>
          rw [showPieces, noEmoji chars List.mem_cons_self] at done
          rw [ih others done, ← List.append_assoc]
          rfl
      | tag inside =>
          rw [showPieces] at done
          obtain ⟨⟨next, more⟩, taken, later⟩ := bind_eq_ok_iff.1 done
          rw [ih others later, text_showTag taken]
          rfl

/-! ## Markup that is shown -/

/-- Markup has no emoji: none of its texts has a code that stands for one. -/
def NoEmoji (markup : String) : Prop :=
  ∀ chars, .text chars ∈ pieces markup.toList → withEmoji chars = chars

variable {markup : String} {chars : List Char}

/-- What is shown of markup without emoji. -/
theorem text_eq (noEmoji : NoEmoji markup) (done : Markup.text markup = .ok chars) :
    chars = withoutControls (visible markup.toList) := by
  obtain ⟨result, shown, rfl⟩ := text_eq_ok_iff.1 done
  rw [text_showPieces noEmoji shown, flatMap_chars_pieces]
  rfl

/-- Markup without emoji is its own text exactly if it is shown as it stands, and then it can be
drawn. -/
theorem text_eq_self_iff (noEmoji : NoEmoji markup) :
    Markup.text markup = .ok markup.toList ↔ ShownExactly markup.toList [] := by
  have apart : ([] : List Char).head? ≠ some '\\' ∧ ([] : List Char).head? ≠ some '[' := by
    decide
  have whole := @withoutControls_visible_append_iff markup.toList [] apart
  have nothing : withoutControls (visible []) = [] := by simp [visible, tokens, withoutControls]
  rw [nothing, List.append_nil] at whole
  constructor
  · intro done
    exact whole.1 (text_eq noEmoji done).symm
  · intro exactly
    obtain ⟨chars, done⟩ := (legible_of_plain exactly.1.plain).exists_text
    rw [done, text_eq noEmoji done, whole.2 exactly]

/-! ## Markup without emoji -/

theorem withEmoji_eq_self (none : ':' ∉ text) : withEmoji text = text := by
  induction text with
  | nil => rw [withEmoji]
  | cons c rest ih =>
      obtain ⟨other, none⟩ := List.ne_and_not_mem_of_not_mem_cons none
      rw [withEmoji, firstShown, if_neg other.symm]
      exact congrArg (c :: ·) (ih none)

theorem Spelled.visible_subset {list : List Token} (spelled : Spelled text list) :
    list.flatMap Token.visible ⊆ text := by
  induction spelled with
  | nil => exact List.Subset.refl _
  | @tag count inside after rest _ _ ih =>
      rw [List.flatMap_cons]
      refine List.append_subset.2 ⟨?_, fun c member => by simp [ih member]⟩
      intro c member
      rw [Token.visible, List.mem_append] at member
      cases member with
      | inl bar =>
          obtain ⟨some, same⟩ := List.mem_replicate.1 bar
          exact List.mem_append_left _ (List.mem_replicate.2 ⟨by omega, same⟩)
      | inr shown =>
          split at shown
          · cases shown
          · simp only [List.mem_append, List.mem_cons, List.not_mem_nil, or_false] at shown ⊢
            tauto
  | @backslashes count after rest _ _ _ ih =>
      rw [List.flatMap_cons]
      refine List.append_subset.2 ⟨?_, List.subset_append_of_subset_right _ ih⟩
      intro c member
      obtain ⟨-, same⟩ := List.mem_replicate.1 member
      exact List.mem_append_left _ (List.mem_replicate.2 ⟨by omega, same⟩)
  | @char c after rest _ _ _ ih => exact List.cons_subset_cons c ih

/-- A text without colons has no emoji. -/
theorem noEmoji_of_not_mem (none : ':' ∉ markup.toList) : NoEmoji markup := by
  intro chars member
  refine withEmoji_eq_self fun colon => none ?_
  have shown : ':' ∈ visible markup.toList := by
    rw [← flatMap_chars_pieces]
    exact List.mem_flatMap.2 ⟨_, member, colon⟩
  exact (spelled_tokens markup.toList).visible_subset shown

/-! ## Lines with a text in them -/

/-- Markup that shows a text without controls before others shows the second one as it stands
exactly if that is shown so. -/
theorem withoutControls_visible_eq_iff {whole front : List Char}
    (apart : after.head? ≠ some '\\' ∧ after.head? ≠ some '[')
    (controls : withoutControls front = front)
    (shown : visible whole = front ++ visible (text ++ after)) :
    withoutControls (visible whole) = front ++ (text ++ withoutControls (visible after)) ↔
      ShownExactly text after := by
  rw [shown, withoutControls_append, controls, List.append_right_inj]
  exact withoutControls_visible_append_iff apart

/-- A line without emoji that ends in a text shows the text exactly if it is shown as it stands. -/
theorem text_append_eq_iff {label line : String} (noEmoji : NoEmoji (label ++ line))
    (free : ∀ c ∈ label.toList, c ≠ '\\' ∧ c ≠ '[' ∧ isControl c = false) :
    Markup.text (label ++ line) = .ok (label.toList ++ line.toList) ↔
      ShownExactly line.toList [] := by
  have unmarked : ∀ c ∈ label.toList, c ≠ '\\' ∧ c ≠ '[' :=
    fun c member => ⟨(free c member).1, (free c member).2.1⟩
  have controls : withoutControls label.toList = label.toList := by
    refine List.filter_eq_self.2 fun c member => ?_
    rw [(free c member).2.2]
    rfl
  have shown : visible (label ++ line).toList = label.toList ++ visible (line.toList ++ []) := by
    rw [String.toList_append, visible_append_of_free _ unmarked, List.append_nil]
  have lined := withoutControls_visible_eq_iff (by decide) controls shown
  have nothing : withoutControls (visible []) = [] := by simp [visible, tokens, withoutControls]
  rw [nothing, List.append_nil] at lined
  constructor
  · intro done
    exact lined.1 (text_eq noEmoji done).symm
  · intro exactly
    have plain : Plain (label ++ line).toList := by
      rw [String.toList_append, Plain, tokens_append _ unmarked, List.forall_mem_append]
      refine ⟨?_, exactly.1.plain⟩
      simp [Token.IsPlain]
    obtain ⟨text, done⟩ := (legible_of_plain plain).exists_text
    rw [done, text_eq noEmoji done, lined.2 exactly]

/-- The line on an operation that is left out shows its name, with what is shown of the message
after it, exactly if the name is shown as it stands. -/
theorem text_skipped_eq_iff {name message : String} {told : List Char}
    (noEmoji : NoEmoji ("[yellow]Skipped[/yellow] " ++ name ++ ": " ++ escape message))
    (plainMessage : NoEmoji (escape message)) (read : Markup.text (escape message) = .ok told) :
    Markup.text ("[yellow]Skipped[/yellow] " ++ name ++ ": " ++ escape message) =
        .ok ("Skipped ".toList ++ (name.toList ++ (": ".toList ++ told))) ↔
      ShownExactly name.toList (": ".toList ++ (escape message).toList) := by
  have shown : visible ("[yellow]Skipped[/yellow] " ++ name ++ ": " ++ escape message).toList =
      "Skipped ".toList ++
        visible (name.toList ++ (": ".toList ++ (escape message).toList)) := by
    rw [toList_skipped, visible_opening (tag?_yellow _), visible_append_of_free _ (by simp),
      visible_opening (tag?_closing_yellow _), visible_append_of_free _ (by simp),
      ← List.append_assoc]
    exact congrArg (· ++ _) (by rfl)
  have separator : withoutControls (visible (": ".toList ++ (escape message).toList)) =
      ": ".toList ++ told := by
    rw [visible_append_of_free _ (by simp), withoutControls_append,
      ← text_eq plainMessage read]
    exact congrArg (· ++ told) (by rfl)
  have lined := withoutControls_visible_eq_iff (by simp) (by rfl) shown
  rw [separator] at lined
  constructor
  · intro done
    exact lined.1 (text_eq noEmoji done).symm
  · intro exactly
    have plain := exactly.1.plain_append (by simp)
      (.cons (by decide) (by decide) (.cons (by decide) (by decide) (plain_escape message)))
    obtain ⟨text, done⟩ := (legible_skipped_of_plain plain).exists_text
    rw [done, text_eq noEmoji done, lined.2 exactly]

/-! ## Tags that close nothing -/

theorem piecesFrom_append_chars (before chars : List Char) (rest : List Token) :
    piecesFrom before (chars.map .char ++ rest) = piecesFrom (chars.reverse ++ before) rest := by
  induction chars generalizing before with
  | nil => rfl
  | cons c chars ih =>
      rw [List.reverse_cons, List.append_assoc]
      exact ih (c :: before)

/-- A tag that closes a style is an error where none is open. -/
theorem exists_showTag_eq_error (shown : Shown) (name : List Char) :
    ∃ flaw, showTag shown [] ('/' :: name) = .error flaw := by
  have closes (style : List Char) : ∃ flaw, closed? [] style = .error flaw := by
    rw [closed?]
    split
    · exact ⟨_, rfl⟩
    · cases normalForm (String.ofList (Text.strip style)) with
      | error flaw => exact ⟨flaw, rfl⟩
      | ok style => exact ⟨_, rfl⟩
  have opens : ('/' :: name).takeWhile (· ≠ '=') = '/' :: name.takeWhile (· ≠ '=') :=
    List.takeWhile_cons_of_pos (by decide)
  obtain ⟨flaw, failed⟩ := closes (name.takeWhile (· ≠ '='))
  refine ⟨flaw, ?_⟩
  rw [showTag, opens]
  change (closed? [] _ >>= _) = _
  rw [failed]
  rfl

/-- Markup whose first tag closes a style cannot be shown. -/
theorem exists_text_eq_error {front name : List Char}
    (free : ∀ c ∈ front, c ≠ '\\' ∧ c ≠ '[')
    (spelled : markup.toList = front ++ ('[' :: '/' :: name ++ ']' :: after))
    (found : tag? ('[' :: '/' :: name ++ ']' :: after) = some ('/' :: name, after)) :
    ∃ flaw, Markup.text markup = .error flaw := by
  have read : pieces markup.toList =
      .text front :: .text [] :: .tag ('/' :: name) :: piecesFrom [] (tokens after) := by
    rw [spelled, pieces, tokens_append _ free, tokens_tag found, piecesFrom_append_chars]
    simp [piecesFrom, tagPieces, bars]
  obtain ⟨flaw, failed⟩ := exists_showTag_eq_error
    (({} : Shown).append (withoutControls (withEmoji front)) |>.append
      (withoutControls (withEmoji []))) name
  refine ⟨flaw, ?_⟩
  have shown : shown markup = .error flaw := by
    rw [Markup.shown, read, showPieces, showPieces, showPieces]
    exact bind_eq_error_iff.2 (.inl failed)
  rw [Markup.text, shown]
  rfl

end Bindery.Display.Markup

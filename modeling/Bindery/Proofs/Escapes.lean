import Bindery.Display.Markup
import Bindery.Proofs.Steps

/-!
# Markup without tags

A text without opening brackets has no tags, and in a text that is escaped every tag stands after an
odd number of backslashes, which makes it plain text.  Such a text can always be shown, also after a
label in a style that is known.
-/

namespace Bindery.Display.Markup

open Bindery.Steps

/-! ## Tags in other surroundings -/

/-- What stands inside a tag does not depend on what follows its closing bracket. -/
theorem inside?_append {inside after : List Char} (other : List Char)
    (found : inside? (inside ++ ']' :: after) = some (inside, after)) :
    inside? (inside ++ ']' :: other) = some (inside, other) := by
  induction inside with
  | nil => rfl
  | cons c inside ih =>
      rw [List.cons_append, inside?] at found ⊢
      by_cases closes : c = ']'
      · rw [if_pos closes] at found
        cases found
      by_cases opens : c = '['
      · rw [if_neg closes, if_pos opens] at found
        cases found
      rw [if_neg closes, if_neg opens] at found ⊢
      obtain ⟨⟨inner, later⟩, here, same⟩ := Option.map_eq_some_iff.1 found
      cases same
      rw [ih here]
      rfl

theorem tag?_append {inside after : List Char} (other : List Char)
    (found : tag? ('[' :: inside ++ ']' :: after) = some (inside, after)) :
    tag? ('[' :: inside ++ ']' :: other) = some (inside, other) := by
  cases inside with
  | nil =>
      -- A closing bracket cannot start a tag.
      cases found
  | cons c inside =>
      simp only [List.cons_append, tag?] at found ⊢
      by_cases starts : startsTag c = true
      · rw [if_pos starts] at found ⊢
        obtain ⟨⟨inner, later⟩, here, same⟩ := Option.map_eq_some_iff.1 found
        cases same
        rw [inside?_append other here]
        rfl
      · rw [if_neg starts] at found
        cases found

theorem eq_append_of_inside? {text inside after : List Char}
    (found : inside? text = some (inside, after)) : text = inside ++ ']' :: after := by
  induction text generalizing inside with
  | nil => cases found
  | cons c text ih =>
      rw [inside?] at found
      by_cases closes : c = ']'
      · rw [if_pos closes] at found
        cases found
        rw [closes]
        rfl
      by_cases opens : c = '['
      · rw [if_neg closes, if_pos opens] at found
        cases found
      rw [if_neg closes, if_neg opens] at found
      obtain ⟨⟨inner, later⟩, here, same⟩ := Option.map_eq_some_iff.1 found
      cases same
      rw [ih here]
      rfl

theorem eq_append_of_tag? {text inside after : List Char}
    (found : tag? text = some (inside, after)) : text = '[' :: inside ++ ']' :: after := by
  unfold tag? at found
  split at found
  · split at found
    · obtain ⟨⟨inner, later⟩, here, same⟩ := Option.map_eq_some_iff.1 found
      cases same
      rw [eq_append_of_inside? here]
      rfl
    · cases found
  · cases found

theorem inside?_bars (count : Nat) (text : List Char) :
    inside? (bars count ++ text) = none ↔ inside? text = none := by
  induction count with
  | zero => rfl
  | succ count ih =>
      rw [bars, List.replicate_succ, List.cons_append, inside?, if_neg (by decide),
        if_neg (by decide), Option.map_eq_none_iff]
      exact ih

/-! ## How tokens are spelled -/

/-- A text is spelled by tokens. -/
inductive Spelled : List Char → List Token → Prop where
  | nil : Spelled [] []
  | tag (count : Nat) {inside after : List Char} {rest : List Token} :
      tag? ('[' :: inside ++ ']' :: after) = some (inside, after) → Spelled after rest →
      Spelled (bars count ++ ('[' :: inside ++ ']' :: after)) (.tag count inside :: rest)
  | backslashes (count : Nat) {after : List Char} {rest : List Token} :
      after.head? ≠ some '\\' → tag? after = none → Spelled after rest →
      Spelled (bars (count + 1) ++ after)
        (.backslashes (count + 1) (after.head? = some '[') :: rest)
  | char {c : Char} {after : List Char} {rest : List Token} :
      c ≠ '\\' → tag? (c :: after) = none → Spelled after rest →
      Spelled (c :: after) (.char c :: rest)

theorem afterBackslashes_bars (count : Nat) {text : List Char} (ends : text.head? ≠ some '\\') :
    afterBackslashes (bars count ++ text) = text := by
  induction count with
  | zero =>
      cases text with
      | nil => rfl
      | cons c text =>
          have other : isBackslash c = false := by simpa [isBackslash] using ends
          exact List.dropWhile_cons_of_neg (by simp [other])
  | succ count ih =>
      rw [bars, List.replicate_succ, List.cons_append, afterBackslashes,
        List.dropWhile_cons_of_pos (by decide)]
      exact ih

/-- A text starts with the backslashes before what follows them. -/
theorem exists_bars (text : List Char) :
    ∃ count, text = bars count ++ afterBackslashes text ∧
      (afterBackslashes text).head? ≠ some '\\' := by
  induction text with
  | nil => exact ⟨0, rfl, by decide⟩
  | cons c text ih =>
      by_cases bar : c = '\\'
      · obtain ⟨count, same, ends⟩ := ih
        subst bar
        have here : afterBackslashes ('\\' :: text) = afterBackslashes text :=
          List.dropWhile_cons_of_pos (by decide)
        rw [here]
        exact ⟨count + 1, congrArg ('\\' :: ·) same, ends⟩
      · have here : afterBackslashes (c :: text) = c :: text :=
          List.dropWhile_cons_of_neg (by simpa [isBackslash] using bar)
        rw [here]
        exact ⟨0, rfl, by simpa using bar⟩

theorem tokens_cons {c : Char} {rest after : List Char} {count : Nat}
    (same : c :: rest = bars count ++ after) (ends : after.head? ≠ some '\\') :
    tokens (c :: rest) =
      match tag? after with
      | some (inside, following) => .tag count inside :: tokens following
      | none =>
        if isBackslash c = true then .backslashes count (after.head? = some '[') :: tokens after
        else .char c :: tokens rest := by
  have past : afterBackslashes (c :: rest) = after := by rw [same, afterBackslashes_bars count ends]
  have length : (c :: rest).length - after.length = count := by
    rw [same, List.length_append, bars, List.length_replicate, Nat.add_sub_cancel]
  rw [tokens]
  dsimp only [token]
  subst past
  rw [length]
  split
  · rename_i inside following found
    simp only [found]
  · rename_i none
    by_cases bar : isBackslash c = true
    · rw [dif_pos bar]
      simp only [none, if_pos bar]
    · rw [dif_neg bar]
      simp only [none, if_neg bar]
      rfl

/-- A text is spelled by its tokens. -/
theorem spelled_tokens (text : List Char) : Spelled text (tokens text) := by
  induction length : text.length using Nat.strongRecOn generalizing text with
  | ind size ih =>
      subst length
      obtain ⟨count, same, ends⟩ := exists_bars text
      cases text with
      | nil =>
          rw [tokens]
          exact .nil
      | cons c rest =>
          rw [tokens_cons same ends]
          cases found : tag? (afterBackslashes (c :: rest)) with
          | some pair =>
              obtain ⟨inside, following⟩ := pair
              dsimp only
              have spelled := eq_append_of_tag? found
              have shorter := Nat.lt_of_lt_of_le (length_tag? found)
                (length_afterBackslashes (c :: rest))
              rw [spelled] at same found
              rw [same]
              exact .tag count found (ih _ shorter _ rfl)
          | none =>
              dsimp only
              cases count with
              | zero =>
                  have whole : afterBackslashes (c :: rest) = c :: rest := same.symm
                  rw [whole] at found ends
                  have only : c ≠ '\\' := by simpa using ends
                  rw [if_neg (by simpa [isBackslash] using only)]
                  exact .char only found (ih _ (Nat.lt_succ_self _) _ rfl)
              | succ count =>
                  have bar : isBackslash c = true := by
                    have first := congrArg List.head? same
                    cases first
                    rfl
                  rw [if_pos bar]
                  have shorter := @length_afterBackslashes_cons _ rest bar
                  have spelled := Spelled.backslashes count ends found (ih _ shorter _ rfl)
                  rw [← same] at spelled
                  exact spelled

/-- A text is spelled by its tokens alone. -/
theorem Spelled.tokens_eq {text : List Char} {list : List Token} (spelled : Spelled text list) :
    tokens text = list := by
  induction spelled with
  | nil => rw [tokens]
  | @tag count inside after rest found _ ih =>
      have shape : ∃ c more, bars count ++ ('[' :: inside ++ ']' :: after) = c :: more := by
        cases count with
        | zero => exact ⟨_, _, rfl⟩
        | succ count => exact ⟨_, _, rfl⟩
      obtain ⟨c, more, shape⟩ := shape
      have ends : ('[' :: inside ++ ']' :: after).head? ≠ some '\\' := by simp
      rw [shape, tokens_cons shape.symm ends, found, ← ih]
  | @backslashes count after rest ends none _ ih =>
      have same : '\\' :: (bars count ++ after) = bars (count + 1) ++ after := rfl
      rw [← same, tokens_cons same ends, none, ← ih]
      rfl
  | @char c after rest only none _ ih =>
      have ends : (c :: after).head? ≠ some '\\' := by simpa using only
      have other : isBackslash c = false := by simpa [isBackslash] using only
      have same : c :: after = bars 0 ++ (c :: after) := rfl
      rw [tokens_cons same ends, none, ← ih]
      simp [other]

/-! ## Texts without tags -/

/-- A token is shown as text. -/
def Token.IsPlain : Token → Prop
  | tag count _ => count % 2 = 1
  | _ => True

/-- A text has no tags but those that backslashes make plain text. -/
def Plain (text : List Char) : Prop := ∀ token ∈ tokens text, token.IsPlain

theorem plain_iff {text : List Char} :
    Plain text ↔ ∃ list, Spelled text list ∧ ∀ token ∈ list, token.IsPlain := by
  constructor
  · intro plain
    exact ⟨tokens text, spelled_tokens text, plain⟩
  · intro exists_list
    obtain ⟨list, spelled, plain⟩ := exists_list
    rw [Plain, spelled.tokens_eq]
    exact plain

theorem tag?_eq_none {c : Char} (other : c ≠ '[') (rest : List Char) : tag? (c :: rest) = none := by
  unfold tag?
  split
  · rename_i same
    exact absurd (List.cons.inj same).1 other
  · rfl

/-- What has no opening brackets adds no tag to what follows, unless the two are taken together. -/
theorem Plain.append {text after : List Char} (none : '[' ∉ text)
    (apart : after.head? ≠ some '\\' ∧ after.head? ≠ some '[') (plain : Plain after) :
    Plain (text ++ after) := by
  have notTag (before : List Char) (none : '[' ∉ before) :
      tag? (before ++ after) = Option.none := by
    cases before with
    | nil =>
        cases after with
        | nil => rfl
        | cons c after => exact tag?_eq_none (by simpa using apart.2) after
    | cons c before => exact tag?_eq_none (fun same => none (same ▸ List.mem_cons_self)) _
  rw [plain_iff] at plain ⊢
  obtain ⟨list, spelled⟩ : ∃ list, Spelled text list := ⟨_, spelled_tokens text⟩
  induction spelled with
  | nil => exact plain
  | tag => simp at none
  | @backslashes count middle rest ends _ _ ih =>
      have free : '[' ∉ middle := fun member => none (List.mem_append_right _ member)
      obtain ⟨list, spelled, all⟩ := ih free
      have ends : (middle ++ after).head? ≠ some '\\' := by
        cases middle with
        | nil => exact apart.1
        | cons c middle => exact ends
      rw [List.append_assoc]
      exact ⟨_, .backslashes count ends (notTag middle free) spelled,
        List.forall_mem_cons.2 ⟨trivial, all⟩⟩
  | @char c middle rest only _ _ ih =>
      obtain ⟨list, spelled, all⟩ := ih fun member => none (List.mem_cons_of_mem _ member)
      exact ⟨_, .char only (notTag (c :: middle) none) spelled,
        List.forall_mem_cons.2 ⟨trivial, all⟩⟩

theorem Plain.cons {c : Char} {after : List Char} (notBackslash : c ≠ '\\') (notBracket : c ≠ '[')
    (plain : Plain after) : Plain (c :: after) := by
  rw [plain_iff] at plain ⊢
  obtain ⟨list, spelled, all⟩ := plain
  exact ⟨_, .char notBackslash (tag?_eq_none notBracket after) spelled,
    List.forall_mem_cons.2 ⟨trivial, all⟩⟩

theorem plain_of_not_mem {text : List Char} (none : '[' ∉ text) : Plain text := by
  have plain : Plain (text ++ []) := .append none (by decide) (by simp [Plain, tokens])
  rwa [List.append_nil] at plain

/-! ## Texts that are escaped -/

section

variable {text : List Char} {list : List Token}

/-- Tokens that are escaped, and some backslashes after them. -/
def escapedBefore (list : List Token) (count : Nat) : List Char :=
  list.flatMap Token.escaped ++ bars count

theorem escapedBefore_tag (backslashes : Nat) (inside : List Char) (rest : List Token)
    (count : Nat) :
    escapedBefore (.tag backslashes inside :: rest) count =
      bars (2 * backslashes + 1) ++ ('[' :: inside ++ ']' :: escapedBefore rest count) := by
  simp [escapedBefore, Token.escaped]

theorem escapedBefore_backslashes (backslashes : Nat) (bracket : Bool) (rest : List Token)
    (count : Nat) :
    escapedBefore (.backslashes backslashes bracket :: rest) count =
      bars backslashes ++ escapedBefore rest count := by
  simp [escapedBefore, Token.escaped]

theorem Spelled.inside?_escaped (spelled : Spelled text list) (count : Nat)
    (none : inside? text = none) : inside? (escapedBefore list count) = Option.none := by
  induction spelled with
  | nil =>
      change inside? (bars count) = Option.none
      rw [← List.append_nil (bars count), inside?_bars]
      rfl
  | tag backslashes _ _ _ =>
      rw [escapedBefore_tag, inside?_bars]
      rfl
  | backslashes before ends _ _ ih =>
      rw [escapedBefore_backslashes, inside?_bars]
      exact ih ((inside?_bars _ _).1 none)
  | @char c after rest only notTag _ ih =>
      change inside? (c :: escapedBefore rest count) = Option.none
      rw [inside?] at none ⊢
      by_cases closes : c = ']'
      · rw [if_pos closes] at none
        cases none
      by_cases opens : c = '['
      · rw [if_neg closes, if_pos opens]
      · rw [if_neg closes, if_neg opens, Option.map_eq_none_iff] at none ⊢
        exact ih none

/-- A bracket that does not start a tag does not start one before what is escaped. -/
theorem Spelled.tag?_escaped (spelled : Spelled text list) (count : Nat) {c : Char}
    (none : tag? (c :: text) = none) : tag? (c :: escapedBefore list count) = Option.none := by
  by_cases opens : c = '['
  · subst opens
    have barred (more : List Char) : tag? ('[' :: '\\' :: more) = Option.none := rfl
    cases spelled with
    | nil =>
        cases count with
        | zero => rfl
        | succ count => exact barred _
    | tag backslashes => exact barred _
    | backslashes before => exact barred _
    | @char d after rest only notTag spelled =>
        change tag? ('[' :: d :: escapedBefore rest count) = Option.none
        rw [tag?] at none ⊢
        by_cases starts : startsTag d = true
        · rw [if_pos starts, Option.map_eq_none_iff] at none ⊢
          exact spelled.inside?_escaped count none
        · rw [if_neg starts]
  · exact tag?_eq_none opens _

/-- What starts neither with a backslash nor with a tag starts so when it is escaped. -/
theorem Spelled.starts_escaped (spelled : Spelled text list) (count : Nat)
    (ends : text.head? ≠ some '\\') (none : tag? text = none) :
    list = [] ∨ (escapedBefore list count).head? ≠ some '\\' ∧
      tag? (escapedBefore list count) = Option.none := by
  cases spelled with
  | nil => exact .inl rfl
  | tag backslashes found _ =>
      cases backslashes with
      | zero => cases found.symm.trans none
      | succ backslashes => exact absurd rfl ends
  | backslashes before => exact absurd rfl ends
  | char only notTag spelled => exact .inr ⟨ends, spelled.tag?_escaped count notTag⟩

/-- What is escaped has no tags but those that backslashes make plain text. -/
theorem Spelled.plain_escaped (spelled : Spelled text list) (count : Nat) :
    Plain (escapedBefore list count) := by
  have onlyBars (count : Nat) :
      ∃ list, Spelled (bars count) list ∧ ∀ token ∈ list, token.IsPlain := by
    cases count with
    | zero => exact ⟨[], .nil, by simp⟩
    | succ count =>
        have spelled : Spelled (bars (count + 1) ++ []) _ := .backslashes count (by decide) rfl .nil
        rw [List.append_nil] at spelled
        exact ⟨_, spelled, by simp [Token.IsPlain]⟩
  rw [plain_iff]
  induction spelled with
  | nil => exact onlyBars count
  | @tag backslashes inside after rest found spelled ih =>
      obtain ⟨more, shown, plain⟩ := ih
      rw [escapedBefore_tag]
      refine ⟨_, .tag _ (tag?_append (escapedBefore rest count) found) shown, ?_⟩
      refine List.forall_mem_cons.2 ⟨?_, plain⟩
      change (2 * backslashes + 1) % 2 = 1
      omega
  | @backslashes before after rest ends notTag spelled ih =>
      obtain ⟨more, shown, plain⟩ := ih
      rw [escapedBefore_backslashes]
      obtain empty | starts := spelled.starts_escaped count ends notTag
      · rw [empty]
        change ∃ list, Spelled (bars (before + 1) ++ bars count) list ∧ _
        rw [bars, bars, List.replicate_append_replicate]
        exact onlyBars _
      · refine ⟨_, .backslashes before starts.1 starts.2 shown, ?_⟩
        exact List.forall_mem_cons.2 ⟨trivial, plain⟩
  | @char c after rest only notTag spelled ih =>
      obtain ⟨more, shown, plain⟩ := ih
      refine ⟨_, .char only (spelled.tag?_escaped count notTag) shown, ?_⟩
      exact List.forall_mem_cons.2 ⟨trivial, plain⟩

theorem plain_escape (text : String) : Plain (escape text).toList := by
  have escaped : ∃ count, (escape text).toList = escapedBefore (tokens text.toList) count := by
    rw [escape]
    split
    · exact ⟨1, String.toList_ofList⟩
    · exact ⟨0, String.toList_ofList.trans (List.append_nil _).symm⟩
  obtain ⟨count, same⟩ := escaped
  rw [same]
  exact (spelled_tokens text.toList).plain_escaped count

end

/-! ## Showing what has no tags -/

theorem exists_text_of_piecesFrom (before : List Char) {list : List Token}
    (plain : ∀ token ∈ list, token.IsPlain) :
    ∀ piece ∈ piecesFrom before list, ∃ chars, piece = .text chars := by
  induction list generalizing before with
  | nil => simp [piecesFrom]
  | cons token rest ih =>
      obtain ⟨first, more⟩ := List.forall_mem_cons.1 plain
      cases token with
      | tag count inside =>
          have odd : count % 2 ≠ 0 := by
            rw [first]
            decide
          rw [piecesFrom, tagPieces, if_neg odd]
          simp only [List.cons_append, List.nil_append, List.forall_mem_cons]
          exact ⟨⟨_, rfl⟩, ⟨_, rfl⟩, ⟨_, rfl⟩, ih [] more⟩
      | backslashes count bracket => exact ih _ more
      | char c => exact ih _ more

/-- A style can be drawn. -/
def Drawable (style : String) : Prop := ∃ parsed, Style.parse style = .ok parsed

/-- The text of markup, without its styles. -/
def text (markup : String) : Except Error (List Char) := (shown markup).map (·.text)

/-- Markup that can be drawn wherever it stands: it can be read, and so can all its styles. -/
def Legible (markup : String) : Prop :=
  ∃ result, shown markup = .ok result ∧ ∀ span ∈ result.spans, Drawable span.style

theorem text_eq_ok_iff {markup : String} {chars : List Char} :
    text markup = .ok chars ↔ ∃ result, shown markup = .ok result ∧ chars = result.text := by
  rw [text, map_eq_ok_iff]
  exact exists_congr fun result => and_congr_right fun _ => eq_comm

theorem Legible.exists_text {markup : String} (legible : Legible markup) :
    ∃ chars, text markup = .ok chars := by
  obtain ⟨result, read, -⟩ := legible
  exact ⟨result.text, text_eq_ok_iff.2 ⟨result, read, rfl⟩⟩

/-- Pieces of markup can be shown after a text, in the styles that are open, and what is shown can
be drawn. -/
def Shows (shown : Shown) (opened : List Opened) (pieces : List Piece) : Prop :=
  ∃ result, showPieces shown opened pieces = .ok result ∧ ∀ span ∈ result.spans, Drawable span.style

namespace Shows

variable {shown : Shown} {opened : List Opened} {rest : List Piece}

theorem nil (spans : ∀ span ∈ shown.spans, Drawable span.style)
    (styles : ∀ tag ∈ opened, Drawable tag.description) : Shows shown opened [] := by
  refine ⟨_, rfl, ?_⟩
  induction opened generalizing shown with
  | nil => exact spans
  | cons tag outer ih =>
      obtain ⟨first, more⟩ := List.forall_mem_cons.1 styles
      exact ih (List.forall_mem_cons.2 ⟨first, spans⟩) more

theorem text {chars drawn : List Char} (same : (withEmoji chars).filter (! isControl ·) = drawn)
    (shows : Shows (shown.append drawn) opened rest) :
    Shows shown opened (.text chars :: rest) := by
  obtain ⟨result, done, drawable⟩ := shows
  refine ⟨result, ?_, drawable⟩
  rw [showPieces, same]
  exact done

/-- An empty text does not matter. -/
theorem empty (shows : Shows shown opened rest) : Shows shown opened (.text [] :: rest) := by
  have same : shown.append [] = shown := by rw [Shown.append, List.append_nil]
  exact .text (by decide +kernel) (same ▸ shows)

theorem tag {inside : List Char} {next : Shown × List Opened}
    (taken : (showTag shown opened inside).toOption = some next)
    (shows : Shows next.1 next.2 rest) :
    Shows shown opened (.tag inside :: rest) := by
  obtain ⟨result, done, drawable⟩ := shows
  refine ⟨result, ?_, drawable⟩
  rw [showPieces, toOption_eq_some_iff.1 taken]
  exact done

/-- Pieces of text can be shown in whatever styles are open. -/
theorem texts {pieces : List Piece} (spans : ∀ span ∈ shown.spans, Drawable span.style)
    (styles : ∀ tag ∈ opened, Drawable tag.description)
    (texts : ∀ piece ∈ pieces, ∃ chars, piece = .text chars) : Shows shown opened pieces := by
  induction pieces generalizing shown with
  | nil => exact .nil spans styles
  | cons piece rest ih =>
      obtain ⟨⟨chars, same⟩, more⟩ := List.forall_mem_cons.1 texts
      subst same
      exact .text rfl (ih spans more)

theorem legible {markup : String} (shows : Shows {} [] (pieces markup.toList)) :
    Legible markup :=
  shows

end Shows

theorem drawable_yellow : Drawable "yellow" :=
  ⟨some { color := some "yellow" }, toOption_eq_some_iff.1 rfl⟩

theorem drawable_progress : Drawable "progress.description" :=
  ⟨none, toOption_eq_some_iff.1 (by decide +kernel)⟩

theorem tokens_tag {text inside after : List Char} (found : tag? text = some (inside, after)) :
    tokens text = .tag 0 inside :: tokens after := by
  have spelled := eq_append_of_tag? found
  subst spelled
  exact (Spelled.tag 0 found (spelled_tokens after)).tokens_eq

theorem tokens_append {text : List Char} (after : List Char)
    (free : ∀ c ∈ text, c ≠ '\\' ∧ c ≠ '[') :
    tokens (text ++ after) = text.map .char ++ tokens after := by
  induction text with
  | nil => rfl
  | cons c text ih =>
      obtain ⟨first, more⟩ := List.forall_mem_cons.1 free
      rw [List.map_cons, List.cons_append, List.cons_append, ← ih more]
      exact (Spelled.char first.1 (tag?_eq_none first.2 _) (spelled_tokens _)).tokens_eq

/-- A tag that is a text of its own is one before any other text. -/
theorem tag?_append_text {text inside : List Char} (spelled : text = '[' :: inside ++ [']'])
    (found : tag? text = some (inside, [])) (after : List Char) :
    tag? (text ++ after) = some (inside, after) := by
  rw [spelled] at found ⊢
  rw [List.append_assoc]
  exact tag?_append after found

/-- Markup without tags can be drawn. -/
theorem legible_of_plain {markup : String} (plain : Plain markup.toList) : Legible markup :=
  Shows.legible (.texts (by simp) (by simp) (exists_text_of_piecesFrom [] plain))

theorem legible_files : Legible "[dim]Generated files:[/dim]" := by
  refine ⟨⟨"Generated files:".toList, [⟨0, 16, "dim"⟩]⟩, ?_, ?_⟩
  · exact toOption_eq_some_iff.1 (by decide +kernel)
  · exact List.forall_mem_singleton.2
      ⟨some { attributes := [("dim", true)] }, toOption_eq_some_iff.1 rfl⟩

/-- What is told about how far a command is can be shown if it has no tags. -/
theorem legible_progress {markup : String} (plain : Plain markup.toList) :
    Legible ("[progress.description]" ++ markup) := by
  apply Shows.legible
  have label : tag? ("[progress.description]".toList ++ markup.toList) =
      some ("progress.description".toList, markup.toList) :=
    tag?_append_text (by rfl) (by rfl) _
  rw [String.toList_append, pieces, tokens_tag label, piecesFrom]
  have opens : (showTag {} [] "progress.description".toList).toOption =
      some ({}, [⟨"progress.description", none, 0⟩]) := by
    decide +kernel
  refine .empty (.empty (.tag opens ?_))
  refine .texts (by simp) ?_ (exists_text_of_piecesFrom [] plain)
  exact List.forall_mem_singleton.2 drawable_progress

theorem tag?_yellow (rest : List Char) :
    tag? ("[yellow]".toList ++ rest) = some ("yellow".toList, rest) :=
  tag?_append_text (by rfl) (by rfl) rest

theorem tag?_closing_yellow (rest : List Char) :
    tag? ("[/yellow]".toList ++ rest) = some ("/yellow".toList, rest) :=
  tag?_append_text (by rfl) (by rfl) rest

theorem toList_skipped (name message : String) :
    ("[yellow]Skipped[/yellow] " ++ name ++ ": " ++ message).toList =
      "[yellow]".toList ++ ("Skipped".toList ++ ("[/yellow]".toList ++
        ([' '] ++ (name.toList ++ (": ".toList ++ message.toList))))) := by
  have label : "[yellow]Skipped[/yellow] " = "[yellow]" ++ "Skipped" ++ "[/yellow]" ++ " " := by
    rfl
  rw [label]
  simp [String.toList_append]

/-- What is told about an operation that is left out can be shown if it has no tags. -/
theorem legible_skipped_of_plain {name message : String}
    (plain : Plain (name.toList ++ (": ".toList ++ message.toList))) :
    Legible ("[yellow]Skipped[/yellow] " ++ name ++ ": " ++ message) := by
  apply Shows.legible
  rw [toList_skipped, pieces, tokens_tag (tag?_yellow _), tokens_append _ (by simp),
    tokens_tag (tag?_closing_yellow _)]
  have opens : (showTag {} [] "yellow".toList).toOption = some ({}, [⟨"yellow", none, 0⟩]) := by
    rfl
  have closes : (showTag ⟨"Skipped".toList, []⟩ [⟨"yellow", none, 0⟩] "/yellow".toList).toOption =
      some (⟨"Skipped".toList, [⟨0, 7, "yellow"⟩]⟩, []) := by
    decide +kernel
  have word : (withEmoji "Skipped".toList).filter (! isControl ·) = "Skipped".toList := by
    decide +kernel
  refine .empty (.empty (.tag opens (.text word (.empty (.tag closes ?_)))))
  have spaced := Plain.cons (c := ' ') (by decide) (by decide) plain
  refine .texts ?_ (by simp) (exists_text_of_piecesFrom [] spaced)
  exact List.forall_mem_singleton.2 drawable_yellow

/-- What is told about an operation that is left out can be shown if its name has no brackets. -/
theorem legible_skipped {name : String} (unbracketed : '[' ∉ name.toList) (message : String) :
    Legible ("[yellow]Skipped[/yellow] " ++ name ++ ": " ++ escape message) := by
  apply legible_skipped_of_plain
  refine .append unbracketed (by simp) ?_
  exact .cons (by decide) (by decide) (.cons (by decide) (by decide) (plain_escape message))

/-! ## Texts in red -/

theorem drawable_red : Drawable "red" :=
  ⟨some { color := some "red" }, toOption_eq_some_iff.1 rfl⟩

theorem inside?_append_bracket {text : List Char} (none : inside? text = none)
    (after : List Char) : inside? (text ++ '[' :: after) = Option.none := by
  induction text with
  | nil => rfl
  | cons c text ih =>
      rw [List.cons_append, inside?] at *
      by_cases closes : c = ']'
      · rw [if_pos closes] at none
        cases none
      by_cases opens : c = '['
      · rw [if_neg closes, if_pos opens]
      · rw [if_neg closes, if_neg opens, Option.map_eq_none_iff] at none ⊢
        exact ih none

theorem tag?_append_bracket {text : List Char} (nonempty : text ≠ []) (none : tag? text = none)
    (after : List Char) : tag? (text ++ '[' :: after) = Option.none := by
  obtain ⟨c, text, rfl⟩ := List.exists_cons_of_ne_nil nonempty
  by_cases opens : c = '['
  · subst opens
    cases text with
    | nil => rfl
    | cons d text =>
        rw [List.cons_append, List.cons_append, tag?] at *
        by_cases starts : startsTag d = true
        · rw [if_pos starts, Option.map_eq_none_iff] at none ⊢
          exact inside?_append_bracket none after
        · rw [if_neg starts]
  · exact tag?_eq_none opens _

/-- A text without tags has none before a closing tag either, but backslashes at its end may escape
that one. -/
theorem Plain.exists_tokens_append {text inside : List Char} (plain : Plain text)
    (closing : tag? ('[' :: inside ++ [']']) = some (inside, [])) :
    ∃ front count, tokens (text ++ ('[' :: inside ++ [']'])) = front ++ [.tag count inside] ∧
      ∀ token ∈ front, token.IsPlain := by
  rw [plain_iff] at plain
  obtain ⟨list, spelled, plain⟩ := plain
  have ends (count : Nat) : Spelled (bars count ++ ('[' :: inside ++ [']'])) [.tag count inside] :=
    .tag count closing .nil
  induction spelled with
  | nil => exact ⟨[], 0, (ends 0).tokens_eq, by simp⟩
  | @tag count other after rest found _ ih =>
      obtain ⟨first, more⟩ := List.forall_mem_cons.1 plain
      obtain ⟨front, last, same, plain⟩ := ih more
      refine ⟨.tag count other :: front, last, ?_, List.forall_mem_cons.2 ⟨first, plain⟩⟩
      have spelled := Spelled.tag count
        (tag?_append (after ++ ('[' :: inside ++ [']'])) found) (spelled_tokens _)
      have regrouped : bars count ++ ('[' :: other ++ ']' :: after) ++ ('[' :: inside ++ [']']) =
          bars count ++ ('[' :: other ++ ']' :: (after ++ ('[' :: inside ++ [']']))) := by
        simp
      rw [regrouped, spelled.tokens_eq, same]
      rfl
  | @backslashes count after rest bar none _ ih =>
      cases after with
      | nil =>
          rw [List.append_nil]
          exact ⟨[], count + 1, (ends (count + 1)).tokens_eq, by simp⟩
      | cons c after =>
          obtain ⟨front, last, same, plain⟩ := ih (List.forall_mem_cons.1 plain).2
          refine ⟨.backslashes (count + 1) (some c = some '[') :: front, last, ?_,
            List.forall_mem_cons.2 ⟨trivial, plain⟩⟩
          have bar : (c :: after ++ ('[' :: inside ++ [']'])).head? ≠ some '\\' := bar
          have spelled := Spelled.backslashes count bar
            (tag?_append_bracket (by simp) none (inside ++ [']'])) (spelled_tokens _)
          rw [List.append_assoc]
          exact spelled.tokens_eq.trans (congrArg (_ :: ·) same)
  | @char c after rest only none _ ih =>
      obtain ⟨front, last, same, plain⟩ := ih (List.forall_mem_cons.1 plain).2
      refine ⟨.char c :: front, last, ?_, List.forall_mem_cons.2 ⟨trivial, plain⟩⟩
      have spelled := Spelled.char only (tag?_append_bracket (by simp) none (inside ++ [']']))
        (spelled_tokens _)
      exact spelled.tokens_eq.trans (congrArg (_ :: ·) same)

/-- Tokens without tags only add a text before others. -/
theorem Shows.append_plain {shown : Shown} {opened : List Opened} {front last : List Token}
    (plain : ∀ token ∈ front, token.IsPlain)
    (shows : ∀ text before, Shows { shown with text := text } opened (piecesFrom before last))
    (before : List Char) : Shows shown opened (piecesFrom before (front ++ last)) := by
  induction front generalizing shown before with
  | nil => exact shows shown.text before
  | cons token front ih =>
      obtain ⟨first, more⟩ := List.forall_mem_cons.1 plain
      cases token with
      | tag count inside =>
          have odd : count % 2 ≠ 0 := by
            rw [first]
            decide
          rw [List.cons_append, piecesFrom, tagPieces, if_neg odd]
          refine .text rfl (.text rfl (.text rfl ?_))
          refine ih more (fun text before => ?_) []
          exact shows text before
      | backslashes count bracket => exact ih more shows _
      | char c => exact ih more shows _

/-- What is told in red can be shown if it is escaped. -/
theorem legible_red (message : String) : Legible ("[red]" ++ escape message ++ "[/red]") := by
  apply Shows.legible
  have opening (rest : List Char) : tag? ("[red]".toList ++ rest) = some ("red".toList, rest) :=
    tag?_append_text (by rfl) (by rfl) rest
  have opens : (showTag {} [] "red".toList).toOption = some ({}, [⟨"red", none, 0⟩]) := by
    rfl
  have closed : (closed? [⟨"red", none, 0⟩] "red".toList).toOption =
      some (⟨"red", none, 0⟩, []) := by
    rfl
  have closes (shown : Shown) : showTag shown [⟨"red", none, 0⟩] "/red".toList =
      .ok (shown.close ⟨"red", none, 0⟩, []) := by
    have name : "/red".toList.takeWhile (· ≠ '=') = '/' :: "red".toList := rfl
    have noHandler : Opened.isHandler ⟨"red", none, 0⟩ = false := by decide +kernel
    rw [showTag, name]
    change (closed? [⟨"red", none, 0⟩] "red".toList >>= _) = _
    rw [toOption_eq_some_iff.1 closed]
    change (if Opened.isHandler ⟨"red", none, 0⟩ = true then _ else _) = _
    rw [if_neg (by rw [noHandler]; decide)]
  have closing : tag? ('[' :: "/red".toList ++ [']']) = some ("/red".toList, []) := by
    rfl
  obtain ⟨front, count, same, plain⟩ := (plain_escape message).exists_tokens_append closing
  have ending : "[/red]".toList = '[' :: "/red".toList ++ [']'] := rfl
  rw [String.toList_append, String.toList_append, List.append_assoc, pieces,
    tokens_tag (opening _), ending, same]
  refine .empty (.empty (.tag opens (.append_plain plain (fun text before => ?_) [])))
  refine .text rfl (.text rfl ?_)
  split
  · refine .tag (toOption_eq_some_iff.2 (closes _)) (.texts ?_ (by simp) (by simp [piecesFrom]))
    exact List.forall_mem_singleton.2 drawable_red
  · refine .texts (by simp [Shown.append]) ?_ (by simp [piecesFrom])
    exact List.forall_mem_singleton.2 drawable_red

end Bindery.Display.Markup

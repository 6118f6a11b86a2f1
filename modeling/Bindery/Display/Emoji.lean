import Bindery.Data.Rest
import Bindery.Display.EmojiTable
import Bindery.Text.Blank
import Bindery.Text.Case
import Bindery.Text.Digits
import Bindery.Text.Split

/-!
# Emoji in markup

The name of an emoji between two colons stands for the emoji.  An ending of the name, `-text` or
`-emoji`, asks for one of its two forms.  A name that no emoji has stays as it is.
-/

namespace Bindery.Display

open Bindery.Data Bindery.Text

/-- The form in which an emoji is shown. -/
inductive EmojiForm where
  | text | emoji
  deriving DecidableEq, Repr

namespace EmojiForm

/-- The ending of a name that asks for a form. -/
def ending : EmojiForm → List Char
  | text => "-text".toList
  | emoji => "-emoji".toList

/-- The character after an emoji that selects a form. -/
def selector : EmojiForm → Char
  | text => '\ufe0e'
  | emoji => '\ufe0f'

end EmojiForm

/-- The entry of an emoji: its name and its characters. -/
def emojiEntry (entry : List Char) : String × List Char :=
  let points := split (· = '+') ((entry.dropWhile (· ≠ '=')).drop 1)
  (String.ofList (entry.takeWhile (· ≠ '=')),
    points.filterMap fun digits => (hexadecimal? digits).map Char.ofNat)

/-- The named emoji. -/
def emojis : List (String × List Char) :=
  ((split isBlank emojiEntries.toList).filter (! ·.isEmpty)).map emojiEntry

/-- The emoji that a name in letters of any case stands for. -/
def emoji? (name : List Char) : Option (List Char) := emojis.lookup (lower (String.ofList name))

/-- A name between colons. -/
structure EmojiCode where
  name : List Char
  form : Option EmojiForm := none
  deriving DecidableEq, Repr

namespace EmojiCode

/-- A code as it is written. -/
def written (code : EmojiCode) : List Char :=
  ':' :: code.name ++ ((code.form.map (·.ending)).getD []) ++ [':']

/-- What a code stands for. -/
def shown (code : EmojiCode) : List Char :=
  match emoji? code.name with
  | some glyph => glyph ++ (code.form.map (·.selector)).toList
  | none => code.written

/-- The form that a text asks for before a colon, and what follows the colon. -/
def form? (text : List Char) : Option (EmojiForm × List Char) :=
  [EmojiForm.emoji, .text].findSome? fun form =>
    let asked := form.ending ++ [':']
    if asked.isPrefixOf text then some (form, text.drop asked.length) else none

/-- Reads a code after its first colon: up to the next colon, without a blank before it. -/
def read? : List Char → Option (EmojiCode × List Char)
  | [] => none
  | c :: rest =>
    if c = ':' then some (⟨[], none⟩, rest)
    else match form? (c :: rest) with
      | some (form, after) => some (⟨[], some form⟩, after)
      | none =>
        if isBlank c then none
        else (read? rest).map fun (code, after) => (⟨c :: code.name, code.form⟩, after)

theorem length_form? {text after : List Char} {form : EmojiForm}
    (found : form? text = some (form, after)) : after.length ≤ text.length := by
  simp only [form?, List.findSome?_cons, List.findSome?_nil] at found
  repeat' split at found
  all_goals grind

theorem length_read? {text after : List Char} {code : EmojiCode}
    (found : read? text = some (code, after)) : after.length ≤ text.length := by
  induction text generalizing code after with
  | nil => simp [read?] at found
  | cons c rest ih =>
    simp only [read?] at found
    split at found
    · simp only [Option.some.injEq, Prod.mk.injEq] at found
      simp [found.2]
    · split at found
      · rename_i form later here
        simp only [Option.some.injEq, Prod.mk.injEq] at found
        exact found.2 ▸ length_form? here
      · split at found
        · simp at found
        · obtain ⟨⟨inner, later⟩, here, same⟩ := Option.map_eq_some_iff.1 found
          simp only [Prod.mk.injEq] at same
          have shorter := ih here
          simp only [List.length_cons, ← same.2]
          omega

end EmojiCode

/-- What the first character of a text stands for, together with the code that it may begin, and
what follows. -/
def firstShown (c : Char) (rest : List Char) : List Char × Rest (c :: rest) :=
  if c = ':' then
    match found : EmojiCode.read? rest with
    | some (code, after) =>
      (code.shown, Remaining.past c ⟨after, EmojiCode.length_read? found⟩)
    | none => ([c], .tail c rest)
  else ([c], .tail c rest)

/-- A text with emoji in the place of their codes. -/
def withEmoji : List Char → List Char
  | [] => []
  | c :: rest =>
    let first := firstShown c rest
    first.1 ++ withEmoji first.2.1
termination_by text => text.length
decreasing_by exact (firstShown c rest).2.2

end Bindery.Display

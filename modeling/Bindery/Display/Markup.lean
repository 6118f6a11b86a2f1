import Bindery.Display.Emoji
import Bindery.Display.Handler
import Bindery.Display.Style

/-!
# Markup

Text for a screen can hold tags in brackets: `[bold]` opens a style, `[/bold]` closes it, and
`[/]` closes the innermost one.  A bracket is the start of a tag only before a small letter, a
slash, `#` or `@`.  Backslashes before a tag make it plain text.  Here nothing is coloured, so
what remains of markup is its plain text.
-/

namespace Bindery.Display.Markup

open Bindery.Data Bindery.Text

/-! ## Tags -/

/-- Whether a character can follow the bracket of a tag. -/
def startsTag (c : Char) : Bool := c.isLower || c = '#' || c = '/' || c = '@'

/-- The inside of a tag and what follows its closing bracket, given what follows its opening
bracket. Another opening bracket is not part of a tag. -/
def inside? : List Char → Option (List Char × List Char)
  | [] => none
  | c :: rest =>
    if c = ']' then some ([], rest)
    else if c = '[' then none
    else (inside? rest).map fun (inside, after) => (c :: inside, after)

/-- The inside of the tag that a text starts with, and what follows the tag. -/
def tag? : List Char → Option (List Char × List Char)
  | '[' :: c :: rest =>
    if startsTag c then (inside? rest).map fun (inside, after) => (c :: inside, after) else none
  | _ => none

theorem length_inside? {text inside after : List Char}
    (found : inside? text = some (inside, after)) :
    after.length < text.length := by
  induction text generalizing inside after with
  | nil => simp [inside?] at found
  | cons c rest ih =>
    simp only [inside?] at found
    split at found
    · simp only [Option.some.injEq, Prod.mk.injEq] at found
      simp [found.2]
    · split at found
      · simp at found
      · obtain ⟨⟨inner, later⟩, here, same⟩ := Option.map_eq_some_iff.1 found
        simp only [Prod.mk.injEq] at same
        have shorter := ih here
        simp only [List.length_cons, ← same.2]
        omega

theorem length_tag? {text inside after : List Char} (found : tag? text = some (inside, after)) :
    after.length < text.length := by
  unfold tag? at found
  split at found
  · split at found
    · obtain ⟨⟨inner, later⟩, here, same⟩ := Option.map_eq_some_iff.1 found
      simp only [Prod.mk.injEq] at same
      have shorter := length_inside? here
      simp only [List.length_cons, ← same.2]
      omega
    · simp at found
  · simp at found

/-! ## Tokens -/

/-- A token of markup. -/
inductive Token where
  /-- A tag with what stands inside its brackets, after some backslashes. -/
  | tag (backslashes : Nat) (inside : List Char)
  /-- Backslashes that no tag follows, and whether a bracket follows them. -/
  | backslashes (count : Nat) (bracket : Bool)
  /-- Any other character. -/
  | char (c : Char)
  deriving DecidableEq, Repr

/-- Whether a character is a backslash. -/
def isBackslash (c : Char) : Bool := c = '\\'

/-- Some backslashes. -/
def bars (count : Nat) : List Char := List.replicate count '\\'

/-- What follows the backslashes at the start of a text. -/
def afterBackslashes (text : List Char) : List Char := text.dropWhile isBackslash

theorem length_afterBackslashes (text : List Char) :
    (afterBackslashes text).length ≤ text.length :=
  length_dropWhile_le isBackslash text

theorem length_afterBackslashes_cons {c : Char} {rest : List Char} (bar : isBackslash c = true) :
    (afterBackslashes (c :: rest)).length < (c :: rest).length := by
  have bound := length_afterBackslashes rest
  simp only [afterBackslashes, List.dropWhile_cons, bar, if_true, List.length_cons] at bound ⊢
  omega

/-- The first token of a text, and what follows it. -/
def token (c : Char) (rest : List Char) : Token × Rest (c :: rest) :=
  let text := c :: rest
  let after := afterBackslashes text
  let count := text.length - after.length
  match found : tag? after with
  | some (inside, following) =>
    (.tag count inside,
      ⟨following, Nat.lt_of_lt_of_le (length_tag? found) (length_afterBackslashes text)⟩)
  | none =>
    if bar : isBackslash c = true then
      (.backslashes count (after.head? = some '['), ⟨after, length_afterBackslashes_cons bar⟩)
    else (.char c, .tail c rest)

/-- The tokens of markup. -/
def tokens : List Char → List Token
  | [] => []
  | c :: rest =>
    let first := token c rest
    first.1 :: tokens first.2.1
termination_by text => text.length
decreasing_by exact (token c rest).2.2

/-! ## Pieces -/

/-- A piece of markup: text, or a tag with what stands inside its brackets. -/
inductive Piece where
  | text (chars : List Char)
  | tag (inside : List Char)
  deriving DecidableEq, Repr

/-- The pieces of a tag. Two backslashes before it stand for one, and a single one makes it plain
text. -/
def tagPieces (backslashes : Nat) (inside : List Char) : List Piece :=
  [.text (bars (backslashes / 2)),
    if backslashes % 2 = 0 then .tag inside else .text ('[' :: inside ++ [']'])]

/-- The text of a token that is no tag. The last backslash before a bracket stands for nothing. -/
def Token.plain : Token → List Char
  | tag _ _ => []
  | backslashes count bracket => bars (if bracket then count - 1 else count)
  | char c => [c]

/-- The pieces of tokens, given the text before them in reverse. What stands between two tags is
one piece. -/
def piecesFrom (before : List Char) : List Token → List Piece
  | [] => [.text before.reverse]
  | .tag backslashes inside :: rest =>
    .text before.reverse :: tagPieces backslashes inside ++ piecesFrom [] rest
  | token :: rest => piecesFrom (token.plain.reverse ++ before) rest

/-- The pieces of markup. -/
def pieces (markup : List Char) : List Piece := piecesFrom [] (tokens markup)

/-! ## Plain text -/

/-- Why markup cannot be shown. -/
inductive Error where
  /-- A closing tag closes a style that is not open. -/
  | notOpen (style : String)
  /-- A closing tag closes the innermost style where none is open. -/
  | nothingOpen
  /-- A handler is closed that cannot be read. -/
  | handler (text : String)
  /-- A colour has a level that cannot be read. -/
  | level (cause : UnreadableLevel)
  deriving DecidableEq, Repr

/-- What is reported about markup that cannot be shown. -/
def Error.message : Error → String
  | notOpen style => "closing tag '[/" ++ style ++ "]' doesn't match any open tag"
  | nothingOpen => "closing tag '[/]' has nothing to close"
  | handler text => "error parsing '" ++ text ++ "'"
  | level cause =>
    "invalid literal for int() with base 10: '" ++ String.ofList cause.digits ++ "'"

/-- A style that is open: its name, what follows its equals sign, and where its text starts. -/
structure Opened where
  name : String
  parameters : Option (List Char)
  start : Nat
  deriving DecidableEq, Repr

/-- Whether a style is a handler. -/
def Opened.isHandler (tag : Opened) : Bool := tag.name.startsWith "@"

/-- The description of a style. -/
def Opened.description (tag : Opened) : String :=
  match tag.parameters with
  | some parameters => tag.name ++ " " ++ String.ofList parameters
  | none => tag.name

/-- A part of a text that is shown in a style. -/
structure Span where
  start : Nat
  stop : Nat
  style : String
  deriving DecidableEq, Repr

/-- A text with the styles of its parts. -/
structure Shown where
  text : List Char := []
  spans : List Span := []
  deriving DecidableEq, Repr

namespace Shown

/-- A text that continues a shown one. -/
def append (shown : Shown) (text : List Char) : Shown :=
  { shown with text := shown.text ++ text }

/-- The span of a style that ends with a shown text. -/
def close (shown : Shown) (tag : Opened) : Shown :=
  { shown with spans := ⟨tag.start, shown.text.length, tag.description⟩ :: shown.spans }

end Shown

/-- A normal form of a style, or what is wrong with its levels. -/
def normalForm (described : String) : Except Error String :=
  (Style.normalForm described).mapError .level

/-- The style that a closing tag closes, and those that stay open. -/
def closed? (opened : List Opened) (name : List Char) : Except Error (Opened × List Opened) := do
  let name := String.ofList (strip name)
  if name.isEmpty then
    match opened with
    | [] => .error .nothingOpen
    | tag :: outer => .ok (tag, outer)
  else
    let style ← normalForm name
    match opened.find? (·.name = style) with
    | some tag => .ok (tag, opened.erase tag)
    | none => .error (.notOpen name)

/-- Shows a tag: it opens a style, or closes one. -/
def showTag (shown : Shown) (opened : List Opened) (inside : List Char) :
    Except Error (Shown × List Opened) := do
  match inside.takeWhile (· ≠ '=') with
  | '/' :: name =>
    let (tag, outer) ← closed? opened name
    if tag.isHandler then
      if tag.parameters.all Handler.isHandler then .ok (shown, outer)
      else .error (.handler tag.description)
    else .ok (shown.close tag, outer)
  | name =>
    let parameters :=
      if inside.contains '=' then some ((inside.dropWhile (· ≠ '=')).drop 1) else none
    .ok (shown, ⟨← normalForm (String.ofList name), parameters, shown.text.length⟩ :: opened)

/-- Whether a character is one that a screen would act on instead of showing it. -/
def isControl (c : Char) : Bool := c.toNat ∈ [0x07, 0x08, 0x0B, 0x0C, 0x0D]

/-- Shows pieces of markup after a text, given the styles that are open. -/
def showPieces (shown : Shown) (opened : List Opened) : List Piece → Except Error Shown
  | [] => .ok (opened.foldl Shown.close shown)
  | .text chars :: rest =>
    showPieces (shown.append ((withEmoji chars).filter (! isControl ·))) opened rest
  | .tag inside :: rest => do
    let (shown, opened) ← showTag shown opened inside
    showPieces shown opened rest

/-- Markup as a text with styles. -/
def shown (markup : String) : Except Error Shown := showPieces {} [] (pieces markup.toList)

/-! ## Escaping -/

/-- A token with its tag escaped. -/
def Token.escaped : Token → List Char
  | tag count inside => bars (2 * count + 1) ++ '[' :: inside ++ [']']
  | backslashes count _ => bars count
  | char c => [c]

/-- A text as markup that shows it. A backslash alone at the end is doubled, so that it does not
escape what follows. -/
def escape (text : String) : String :=
  let escaped := (tokens text.toList).flatMap Token.escaped
  let alone := escaped.reverse.head?.any isBackslash && ! escaped.reverse.tail.head?.any isBackslash
  String.ofList (if alone then escaped ++ ['\\'] else escaped)

end Bindery.Display.Markup

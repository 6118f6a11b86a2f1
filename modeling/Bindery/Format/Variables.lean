import Bindery.Text.Blank

/-!
# Reading files of variables

A file of variables has a name and a value on each line.  A value may stand in quotes, and may
take in the values of other variables.  What cannot be read is passed over up to the end of its
line.
-/

namespace Bindery.Format.Variables

open Bindery.Text

/-- What is read from a text, with what is left of it; or what is left where reading fails. -/
abbrev Step (α : Type) := Except (List Char) (α × List Char)

/-! ## Names -/

/-- Whether a character is blank and ends no line. -/
def isWhite (c : Char) : Bool := isBlank c && c ≠ '\n'

/-- A text without the blanks of its line at its start. -/
def skipWhite (text : List Char) : List Char := text.dropWhile isWhite

/-- A text without the word that may precede a name, and the blanks after it. -/
def skipExport (text : List Char) : List Char :=
  let word := "export".toList
  if word.isPrefixOf text && (text.drop word.length).head?.any isWhite then
    skipWhite (text.drop word.length)
  else text

/-- The name at the start of a line. A comment has none. -/
def name (text : List Char) : Step (Option (List Char)) :=
  match text with
  | '#' :: _ => .ok (none, text)
  | '\'' :: rest =>
    let quoted := rest.takeWhile (· ≠ '\'')
    match rest.drop quoted.length with
    | _ :: after => if quoted.isEmpty then .error text else .ok (some quoted, after)
    | [] => .error text
  | _ =>
    let plain := text.takeWhile fun c => c ≠ '=' && c ≠ '#' && ! isBlank c
    if plain.isEmpty then .error text else .ok (some plain, text.drop plain.length)

/-! ## Values -/

/-- What stands before the quote mark that ends a value, and what follows the mark, given what
precedes the text in reverse. A mark after a backslash ends the value only if no other mark
does. -/
def beforeQuote? (mark : Char) (before : List Char) : List Char → Option (List Char × List Char)
  | [] => none
  | '\\' :: c :: rest =>
    if c = mark then
      (beforeQuote? mark (c :: '\\' :: before) rest).or (some (('\\' :: before).reverse, rest))
    else beforeQuote? mark ('\\' :: before) (c :: rest)
  | c :: rest =>
    if c = mark then some (before.reverse, rest) else beforeQuote? mark (c :: before) rest

/-- What letters stand for after a backslash. -/
def letterEscapes : List (Char × Char) := [
  ('a', '\x07'), ('b', '\x08'), ('f', '\x0c'), ('n', '\n'), ('r', '\r'), ('t', '\t'),
  ('v', '\x0b')]

/-- The character that one after a backslash stands for. Between single quotes only quotes and
backslashes are escaped. -/
def escaped? (mark c : Char) : Option Char :=
  if c = '\\' || c = '\'' then some c
  else if mark = '\'' then none
  else if c = '"' then some c
  else letterEscapes.lookup c

/-- A value between quotes with its escapes read. -/
def unescape (mark : Char) : List Char → List Char
  | '\\' :: c :: rest =>
    match escaped? mark c with
    | some read => read :: unescape mark rest
    | none => '\\' :: unescape mark (c :: rest)
  | c :: rest => c :: unescape mark rest
  | [] => []

/-- A line without the comment that follows a blank, given whether a blank precedes it. -/
def beforeComment (afterBlank : Bool) : List Char → List Char
  | [] => []
  | c :: rest => if afterBlank && c = '#' then [] else c :: beforeComment (isBlank c) rest

/-- A value between quotes, given the text after the first mark. -/
def quotedValue (mark : Char) (text : List Char) : Step (List Char) :=
  match beforeQuote? mark [] text with
  | some (read, after) => .ok (unescape mark read, after)
  | none => .error (mark :: text)

/-- The value at the start of a text. -/
def value (text : List Char) : Step (List Char) :=
  match text with
  | '\'' :: rest => quotedValue '\'' rest
  | '"' :: rest => quotedValue '"' rest
  | _ =>
    let line := text.takeWhile (· ≠ '\n')
    .ok (trimRight (beforeComment false line), text.drop line.length)

/-! ## Lines -/

/-- What is left after the end of a line, which nothing but a comment may precede. -/
def lineEnd (text : List Char) : Except (List Char) (List Char) :=
  let rest := skipWhite text
  let rest := if rest.head? = some '#' then rest.dropWhile (· ≠ '\n') else rest
  if rest.head?.all (· = '\n') then .ok (rest.drop 1) else .error rest

/-- A name with its value, if it has one. -/
abbrev Variable := List Char × Option (List Char)

/-- The variable at the start of a text, if there is one. -/
def variableOf (text : List Char) : Except (List Char) (Option Variable × List Char) := do
  let (name, rest) ← name (skipExport text)
  let rest := skipWhite rest
  let (content, rest) ←
    match rest with
    | '=' :: more => (value (skipWhite more)).map fun (read, after) => (some read, after)
    | _ => .ok (none, rest)
  return (name.map fun name => (name, content), ← lineEnd rest)

/-- The variables of a text. -/
def scan (text : List Char) : List Variable :=
  match text.dropWhile isBlank with
  | [] => []
  | c :: rest =>
    let (found, left) :=
      match variableOf (c :: rest) with
      | .ok (found, left) => (found, left)
      | .error left => (none, (left.dropWhile (· ≠ '\n')).drop 1)
    if _ : left.length < text.length then found.toList ++ scan left else found.toList
termination_by text.length

/-! ## Values in values -/

/-- Variables with their values, of which each name has one. -/
abbrev Values := List (String × Option String)

/-- A variable that a value takes in: its name, and what stands for it if it has no value; and
the text after it. The text is the one after the opening brace. -/
def reference? (text : List Char) : Option (String × List Char × List Char) :=
  let name := text.takeWhile fun c => c ≠ '\x7d' && c ≠ ':'
  match text.drop name.length with
  | '\x7d' :: rest => some (String.ofList name, [], rest)
  | ':' :: '-' :: more =>
    let default := more.takeWhile (· ≠ '\x7d')
    match more.drop default.length with
    | _ :: rest => some (String.ofList name, default, rest)
    | [] => none
  | _ => none

theorem length_reference? {text default rest : List Char} {name : String}
    (found : reference? text = some (name, default, rest)) : rest.length < text.length := by
  have le (count : Nat) (whole : List Char) : (whole.drop count).length ≤ whole.length :=
    (List.drop_sublist count whole).length_le
  simp only [reference?] at found
  have outer := le (text.takeWhile fun c => c ≠ '\x7d' && c ≠ ':').length text
  split at found
  · rename_i _ after shape
    simp only [Option.some.injEq, Prod.mk.injEq] at found
    rw [shape] at outer
    rw [← found.2.2]
    exact outer
  · rename_i _ more shape
    rw [shape] at outer
    have inner := le (more.takeWhile (· ≠ '\x7d')).length more
    split at found
    · rename_i _ c after ended
      simp only [Option.some.injEq, Prod.mk.injEq] at found
      rw [ended] at inner
      rw [← found.2.2]
      simp only [List.length_cons] at inner outer
      omega
    · exact absurd found (by simp)
  · exact absurd found (by simp)

/-- A value in which other values were taken in. -/
def expand (values : Values) (text : List Char) : List Char :=
  match text with
  | [] => []
  | '$' :: '\x7b' :: rest =>
    match found : reference? rest with
    | some (name, default, after) =>
      have := length_reference? found
      let content :=
        match values.lookup name with
        | some held => (held.getD "").toList
        | none => default
      content ++ expand values after
    | none => '$' :: expand values ('\x7b' :: rest)
  | c :: rest => c :: expand values rest
termination_by text.length

/-- The values after a variable was given one; it keeps its place. -/
def assign (values : Values) (name : String) (content : Option String) : Values :=
  if (values.lookup name).isSome then
    values.map fun (other, held) => if other = name then (other, content) else (other, held)
  else values ++ [(name, content)]

/-- The variables of a text, given those of the surroundings. -/
def read (around : Values) (source : String) : Values :=
  (scan source.toList).foldl (fun values (name, content) =>
    assign values (String.ofList name) <|
      content.map fun text => String.ofList (expand (values ++ around) text)) []

end Bindery.Format.Variables

import Bindery.Format.Toml.Error
import Bindery.Text.Digits

/-!
# Texts and keys of TOML

A text stands between quotes; single quotes take it literally and double quotes allow escapes,
and three of either let it span lines.  A key is a path of names, each bare or quoted.
-/

namespace Bindery.Format.Toml

open Bindery.Data

/-! ## Literal texts -/

/-- The text up to a closing mark, and what is left after the mark. -/
def upTo (mark : List Char) : List Char → Option (List Char × List Char)
  | [] => none
  | c :: rest =>
    if mark.isPrefixOf (c :: rest) then some ([], (c :: rest).drop mark.length)
    else (upTo mark rest).map fun (found, left) => (c :: found, left)

/-- A literal text up to its closing mark, given the text after its opening mark, with the
characters that may not stand in it. -/
def literal (mark : List Char) (isExcluded : Char → Bool) (text : List Char) : Step String text :=
  match upTo mark text with
  | none => .error (.flaw (.expectedQuote (String.ofList mark)) 0)
  | some (found, left) =>
    match found.find? isExcluded with
    | some c =>
      .error (.flaw (.invalidCharacter c) (text.length - (found.takeWhile (! isExcluded ·)).length))
    | none =>
      if shorter : left.length < text.length then .ok (String.ofList found, ⟨left, shorter⟩)
      else .error (.flaw .unterminated 0)

/-! ## Texts with escapes -/

/-- The characters of the escapes of one letter. -/
def letters : List (Char × Char) := [
  ('b', '\x08'), ('t', '\t'), ('n', '\n'), ('f', '\x0c'), ('r', '\r'), ('"', '"'), ('\\', '\\')]

/-- The character of an escape by its code, given the text after its letter. -/
def code (width : Nat) (text : List Char) : Except Stop Char :=
  match Text.hexadecimal? (text.take width) with
  | none => .error (.flaw .invalidCode text.length)
  | some number =>
    if text.length < width then .error (.flaw .invalidCode text.length)
    else if 0x110000 ≤ number || (0xD800 ≤ number && number < 0xE000) then
      .error (.flaw .noCharacter (text.length - width))
    else .ok (Char.ofNat number)

/-- What an escape stands for and what is left after it, given the text after its backslash. In a
text of several lines a backslash at the end of a line takes the blanks after it away. -/
def escape (multiline : Bool) (text : List Char) : Step (List Char) text :=
  match text with
  | [] => .error (.flaw .unescaped 0)
  | letter :: rest =>
    if multiline && (isWhite letter || letter = '\n') then
      let lineEnd := if letter = '\n' then letter :: rest else skipWhite rest
      match lineEnd with
      | [] => .ok ([], Rest.drop rest.length letter rest)
      | c :: _ =>
        if c ≠ '\n' then .error (.flaw .unescaped lineEnd.length)
        else
          .ok ([], (Remaining.dropWhile (fun c => isWhite c || c = '\n') rest).past letter)
    else
      match if letter = 'u' then some 4 else if letter = 'U' then some 8 else none with
      | some width => (code width rest).map fun c =>
        ([c], Rest.drop width letter rest)
      | none =>
        match letters.lookup letter with
        | some c => .ok ([c], Rest.tail letter rest)
        | none => .error (.flaw .unescaped rest.length)

/-- The characters of a text with escapes up to its closing mark, and what is left. -/
def basicBody (multiline : Bool) (text : List Char) : Step (List Char) text :=
  match text with
  | [] => .error (.flaw .unterminated 0)
  | c :: rest =>
    if c = '"' && ! multiline then .ok ([], Rest.tail c rest)
    else if c = '"' && rest.take 2 == ['"', '"'] then
      .ok ([], Rest.drop 2 c rest)
    else if c = '\\' then
      match escape multiline rest with
      | .error stop => .error stop
      | .ok (chars, left) =>
        match basicBody multiline left.1 with
        | .error stop => .error stop
        | .ok (more, last) =>
          .ok (chars ++ more, (left.andThen last).past c)
    else if isControl c && ! (multiline && c = '\n') then
      .error (.flaw (.illegalCharacter c) (rest.length + 1))
    else
      match basicBody multiline rest with
      | .error stop => .error stop
      | .ok (more, last) => .ok (c :: more, last.past c)
termination_by text.length
decreasing_by
  · exact Nat.lt_succ_of_lt left.2
  · exact Nat.lt_succ_self rest.length

/-- A text with up to two more quotes that stand after its closing mark. -/
def withQuotes (quote : Char) (found : String) {text : List Char} (left : Rest text) :
    String × Rest text :=
  let more := (left.1.take 2).takeWhile (· = quote)
  (found ++ String.ofList more, left.andMaybe ((Remaining.all left.1).drop more.length))

/-- A text without a line feed at its start. -/
def dropLineFeed (text : List Char) : List Char :=
  if text.head? = some '\n' then text.drop 1 else text

theorem length_dropLineFeed_le (text : List Char) : (dropLineFeed text).length ≤ text.length := by
  unfold dropLineFeed
  split <;> simp

/-- A text of several lines, given what follows its opening mark. A line feed there does not
count. -/
def multiline (quote : Char) (text : List Char) : Step String text :=
  have bound := length_dropLineFeed_le text
  let body : Step String (dropLineFeed text) :=
    if quote = '\'' then
      literal (List.replicate 3 quote) (fun c => isControl c && c ≠ '\n') (dropLineFeed text)
    else
      (basicBody true (dropLineFeed text)).map fun (chars, left) => (String.ofList chars, left)
  body.map fun (found, left) => withQuotes quote found (left.of bound)

/-- A text on one line, given what follows its quote. -/
def singleLine (quote : Char) (text : List Char) : Step String text :=
  if quote = '\'' then literal [quote] isControl text
  else (basicBody false text).map fun (chars, left) => (String.ofList chars, left)

/-! ## Keys -/

/-- Whether a character may stand in a bare name. -/
def isBare (c : Char) : Bool := c.isAlphanum || c = '-' || c = '_'

/-- A name of a key. -/
def keyName (text : List Char) : Step String text :=
  match text with
  | [] => .error (.flaw .invalidKey 0)
  | c :: rest =>
    if isBare c then
      .ok (String.ofList (c :: rest.takeWhile isBare), (Remaining.dropWhile isBare rest).past c)
    else if c = '\'' || c = '"' then
      (singleLine c rest).map fun (name, left) => (name, left.past c)
    else .error (.flaw .invalidKey (rest.length + 1))

/-- What is left after a mark and the blanks that follow it, if a text starts with the mark. -/
def afterMark? (mark : Char) : (text : List Char) → Option (Rest text)
  | [] => none
  | c :: rest => if c = mark then some ((Remaining.dropWhile isWhite rest).past c) else none

/-- A key and what is left after the blanks that follow it. -/
def key (text : List Char) : Step Path text :=
  match keyName text with
  | .error stop => .error stop
  | .ok (name, left) =>
    let after := left.andMaybe (.dropWhile isWhite left.1)
    match afterMark? '.' after.1 with
    | none => .ok ([name], after)
    | some next =>
      match key next.1 with
      | .error stop => .error stop
      | .ok (names, last) => .ok (name :: names, after.andThen (next.andThen last))
termination_by text.length
decreasing_by exact (after.andThen next).2

end Bindery.Format.Toml

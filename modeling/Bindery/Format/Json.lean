import Bindery.Data.Checked
import Bindery.Data.Position
import Bindery.Data.Rest
import Bindery.Data.Value
import Bindery.Format.Unrepresentable
import Bindery.Text.Digits

/-!
# Reading JSON

`Json.read` reads one JSON text.  Beyond the standard it takes the numbers `NaN`, `Infinity` and
`-Infinity`.  Of several members of one name the last counts.  Every error names the place it
was found at.
-/

namespace Bindery.Format.Json

open Bindery.Data

/-- What is wrong with a JSON text. -/
inductive Flaw where
  | expectedValue | expectedName | expectedColon | expectedComma | extraData
  | unterminated | controlCharacter | badEscape | badCodeEscape | byteOrderMark
  deriving DecidableEq, Repr

/-- The wording of a flaw. -/
def Flaw.message : Flaw → String
  | expectedValue => "Expecting value"
  | expectedName => "Expecting property name enclosed in double quotes"
  | expectedColon => "Expecting ':' delimiter"
  | expectedComma => "Expecting ',' delimiter"
  | extraData => "Extra data"
  | unterminated => "Unterminated string starting at"
  | controlCharacter => "Invalid control character at"
  | badEscape => "Invalid \\escape"
  | badCodeEscape => "Invalid \\uXXXX escape"
  | byteOrderMark => "Unexpected UTF-8 BOM (decode using utf-8-sig)"

/-- Why a text could not be read. -/
inductive Error where
  | flaw (flaw : Flaw) (position : Position)
  | unrepresentable (flaw : Unrepresentable)
  /-- Half of a surrogate pair stands alone. -/
  | halfPair
  deriving DecidableEq, Repr

/-- What is reported about a text that could not be read. -/
def Error.message : Error → String
  | .flaw kind position =>
    kind.message ++ ": line " ++ toString position.line ++ " column " ++
      toString position.column ++ " (char " ++ toString position.offset ++ ")"
  | .unrepresentable cause => cause.message
  | .halfPair => Problem.notUnicode.message

/-- An error during reading, which knows its place by the number of characters left. -/
inductive Stop where
  | flaw (flaw : Flaw) (left : Nat)
  | unrepresentable (flaw : Unrepresentable)
  | halfPair

/-- What a reading step gives: a result and what is left of the text, or an error. -/
abbrev Step (α : Type) (text : List Char) := Except Stop (α × Rest text)

/-- Whether a character may stand between tokens. -/
def isSpace (c : Char) : Bool := c = ' ' || c = '\t' || c = '\n' || c = '\r'

/-- A text without the space at its start. -/
def skip (text : List Char) : List Char := text.dropWhile isSpace

theorem length_skip_le (text : List Char) : (skip text).length ≤ text.length :=
  length_dropWhile_le isSpace text

/-! ## Strings -/

/-- The character of a code unit; half of a pair alone stands for no character. -/
def unitChar (unit : Nat) : Except Stop Char :=
  if 0xD800 ≤ unit && unit < 0xE000 then .error .halfPair else .ok (Char.ofNat unit)

/-- The character of an escape by code units, given the text after its `\u`: one unit, or two
that form a pair. The number of characters that it takes comes with it. -/
def codeEscape (text : List Char) : Except Stop (Char × Nat) :=
  if text.length ≤ 4 then .error (.flaw .badCodeEscape (text.length + 1))
  else match Text.hexadecimal? (text.take 4) with
    | none => .error (.flaw .badCodeEscape (text.length + 1))
    | some unit =>
      let more := text.drop 4
      if 0xD800 ≤ unit && unit < 0xDC00 && more.length > 6 && more.take 2 == ['\\', 'u'] then
        match Text.hexadecimal? ((more.drop 2).take 4) with
        | none => .error (.flaw .badCodeEscape (more.length - 1))
        | some low =>
          if 0xDC00 ≤ low && low < 0xE000 then
            .ok (Char.ofNat (0x10000 + (unit - 0xD800) * 0x400 + (low - 0xDC00)), 10)
          else (unitChar unit).map (·, 4)
      else (unitChar unit).map (·, 4)

/-- The character of an escape of one letter. -/
def letterEscape? (c : Char) : Option Char :=
  match c with
  | '"' => some '"'
  | '\\' => some '\\'
  | '/' => some '/'
  | 'b' => some '\x08'
  | 'f' => some '\x0c'
  | 'n' => some '\n'
  | 'r' => some '\r'
  | 't' => some '\t'
  | _ => none

/-- The characters of a string up to its closing quote, given how much was left where the string
starts. -/
def stringBody (start : Nat) (text : List Char) : Step (List Char) text :=
  match text with
  | [] => .error (.flaw .unterminated start)
  | '"' :: rest => .ok ([], Rest.tail _ rest)
  | '\\' :: [] => .error (.flaw .unterminated start)
  | '\\' :: 'u' :: rest =>
    match codeEscape rest with
    | .error stop => .error stop
    | .ok (c, taken) =>
      match stringBody start (rest.drop taken) with
      | .error stop => .error stop
      | .ok (more, left) => .ok (c :: more, ((left.pastDrop taken).past _).past _)
  | '\\' :: letter :: rest =>
    match letterEscape? letter with
    | none => .error (.flaw .badEscape (rest.length + 2))
    | some c =>
      match stringBody start rest with
      | .error stop => .error stop
      | .ok (more, left) => .ok (c :: more, (left.past _).past _)
  | c :: rest =>
    if c.toNat < 0x20 then .error (.flaw .controlCharacter (rest.length + 1))
    else match stringBody start rest with
      | .error stop => .error stop
      | .ok (more, left) => .ok (c :: more, left.past c)
termination_by text.length
decreasing_by all_goals simp only [List.length_drop, List.length_cons]; omega

/-- A string, given the text after its opening quote. -/
def string (text : List Char) : Step String text :=
  (stringBody (text.length + 1) text).map fun (chars, rest) => (String.ofList chars, rest)

/-! ## Numbers -/

/-- The digits of a fraction after its point, if a digit follows the point. -/
def fractionDigits (text : List Char) : List Char :=
  match text with
  | '.' :: rest => rest.takeWhile Char.isDigit
  | _ => []

/-- The exponent at the start of a text: its value and its length. -/
def exponentPart (text : List Char) : Option (Int × Nat) :=
  match text with
  | c :: rest =>
    if c = 'e' || c = 'E' then
      let (sign, digits) : Int × List Char :=
        match rest with
        | '-' :: more => (-1, more)
        | '+' :: more => (1, more)
        | more => (1, more)
      let shown := digits.takeWhile Char.isDigit
      if shown.isEmpty then none
      else some (sign * Text.decimal shown, 1 + (rest.length - digits.length) + shown.length)
    else none
  | [] => none

/-- The digits of the whole part of a number: a zero alone, or digits that start with another. -/
def wholeDigits (text : List Char) : List Char :=
  match text with
  | '0' :: _ => ['0']
  | _ => text.takeWhile Char.isDigit

/-- A number: a whole one, or a real one if it has a fraction or an exponent. -/
def number (text : List Char) : Step Value text :=
  let unsigned := if text.head? = some '-' then text.drop 1 else text
  let whole := wholeDigits unsigned
  if whole.isEmpty then .error (.flaw .expectedValue text.length)
  else
    let negative := text.head? = some '-'
    let afterWhole := unsigned.drop whole.length
    let fraction := fractionDigits afterWhole
    let afterFraction :=
      if fraction.isEmpty then afterWhole else afterWhole.drop (fraction.length + 1)
    let (exponent, afterExponent) :=
      match exponentPart afterFraction with
      | some (exponent, length) => (some exponent, afterFraction.drop length)
      | none => (none, afterFraction)
    let value :=
      if fraction.isEmpty && exponent.isNone then
        let magnitude : Int := Text.decimal whole
        Value.int (if negative then -magnitude else magnitude)
      else
        Value.real <| Double.ofDecimal negative (Text.decimal (whole ++ fraction))
          (exponent.getD 0 - fraction.length)
    if fraction.isEmpty && exponent.isNone && whole.length > Text.maxDigits then
      .error (.unrepresentable (.hugeInteger whole.length))
    else if shorter : afterExponent.length < text.length then .ok (value, ⟨afterExponent, shorter⟩)
    else .error (.flaw .expectedValue text.length)

/-! ## Values -/

/-- The words that are values, with what they mean. -/
def words : List (List Char × Value) := [
  ("null".toList, .null), ("true".toList, .bool true), ("false".toList, .bool false),
  ("NaN".toList, .real .nan), ("Infinity".toList, .real (.infinite false)),
  ("-Infinity".toList, .real (.infinite true))]

/-- A word or a number. -/
def scalar (text : List Char) : Step Value text :=
  match words.find? fun (word, _) => word.isPrefixOf text with
  | some (word, value) =>
    if shorter : (text.drop word.length).length < text.length then
      .ok (value, ⟨text.drop word.length, shorter⟩)
    else .error (.flaw .expectedValue text.length)
  | none => number text

/-- How deep collections can lie in each other. -/
def maxDepth : Nat := 989

mutual

/-- A value at the start of a text, in which collections can lie `depth` deep in each other. -/
def value (depth : Nat) (text : List Char) : Step Value text :=
  match text with
  | [] => .error (.flaw .expectedValue 0)
  | '"' :: rest =>
    match string rest with
    | .error stop => .error stop
    | .ok (chars, left) => .ok (.text chars, left.of (by simp))
  | '[' :: rest =>
    match depth with
    | 0 => .error (.unrepresentable .arrayTooDeep)
    | depth + 1 =>
      match nonempty : skip rest with
      | ']' :: left =>
        .ok (.list [], ⟨left, by
          have := length_skip_le rest; simp [nonempty] at this; simp; omega⟩)
      | start =>
        match items depth (skip rest) with
        | .error stop => .error stop
        | .ok (found, left) =>
          .ok (.list found, left.of (by have := length_skip_le rest; simp; omega))
  | '\x7b' :: rest =>
    match depth with
    | 0 => .error (.unrepresentable .objectTooDeep)
    | depth + 1 =>
      match nonempty : skip rest with
      | '\x7d' :: left =>
        .ok (.map [], ⟨left, by
          have := length_skip_le rest; simp [nonempty] at this; simp; omega⟩)
      | start =>
        match members depth [] (skip rest) with
        | .error stop => .error stop
        | .ok (found, left) =>
          .ok (.map found, left.of (by have := length_skip_le rest; simp; omega))
  | c :: rest => scalar (c :: rest)
termination_by (text.length, 0)
decreasing_by
  all_goals
    have := length_skip_le rest
    simp only [List.length_cons]
    exact Prod.Lex.left _ _ (by omega)

/-- The items of a list up to its closing bracket; there is at least one. -/
def items (depth : Nat) (text : List Char) : Step (List Value) text :=
  match value depth text with
  | .error stop => .error stop
  | .ok (first, left) =>
    match after : skip left.1 with
    | ']' :: rest =>
      .ok ([first], ⟨rest, by
        have := length_skip_le left.1; have := left.2; simp [after] at *; omega⟩)
    | ',' :: rest =>
      match items depth (skip rest) with
      | .error stop => .error stop
      | .ok (more, last) =>
        .ok (first :: more, last.of (by
          have := length_skip_le left.1; have := left.2; have := length_skip_le rest
          simp [after] at *; omega))
    | start => .error (.flaw .expectedComma start.length)
termination_by (text.length, 1)
decreasing_by
  · exact Prod.Lex.right _ (by omega)
  · have := length_skip_le left.1
    have := left.2
    have := length_skip_le rest
    simp only [after, List.length_cons] at *
    exact Prod.Lex.left _ _ (by omega)

/-- The members of a map up to its closing brace, added to those before them; there is at least
one. -/
def members (depth : Nat) (held : List (Value × Value)) (text : List Char) :
    Step (List (Value × Value)) text :=
  match text with
  | '"' :: afterQuote =>
    match string afterQuote with
    | .error stop => .error stop
    | .ok (name, afterName) =>
      match colon : skip afterName.1 with
      | ':' :: afterColon =>
        match value depth (skip afterColon) with
        | .error stop => .error stop
        | .ok (content, left) =>
          match after : skip left.1 with
          | '\x7d' :: rest =>
            .ok (Value.insert held (.text name) content, ⟨rest, by
              have := length_skip_le left.1; have := left.2
              have := length_skip_le afterColon; have := length_skip_le afterName.1
              have := afterName.2
              simp [after, colon] at *; omega⟩)
          | ',' :: rest =>
            match members depth (Value.insert held (.text name) content) (skip rest) with
            | .error stop => .error stop
            | .ok (all, last) =>
              .ok (all, last.of (by
                have := length_skip_le left.1; have := left.2
                have := length_skip_le afterColon; have := length_skip_le afterName.1
                have := afterName.2; have := length_skip_le rest
                simp [after, colon] at *; omega))
          | start => .error (.flaw .expectedComma start.length)
      | start => .error (.flaw .expectedColon start.length)
  | start => .error (.flaw .expectedName start.length)
termination_by (text.length, 1)
decreasing_by
  · have := length_skip_le afterColon
    have := length_skip_le afterName.1
    have := afterName.2
    simp only [colon, List.length_cons] at *
    exact Prod.Lex.left _ _ (by omega)
  · have := length_skip_le left.1
    have := left.2
    have := length_skip_le afterColon
    have := length_skip_le afterName.1
    have := afterName.2
    have := length_skip_le rest
    simp only [after, colon, List.length_cons] at *
    exact Prod.Lex.left _ _ (by omega)

end

/-- Reads a JSON text that holds one value and nothing else. -/
def read (source : String) : Except Error Value :=
  let text := source.toList
  let place (stop : Stop) : Error :=
    match stop with
    | .flaw kind left => .flaw kind (.ofLeft text left)
    | .unrepresentable cause => .unrepresentable cause
    | .halfPair => .halfPair
  if text.head? = some '\uFEFF' then .error (place (.flaw .byteOrderMark text.length))
  else match value maxDepth (skip text) with
    | .error stop => .error (place stop)
    | .ok (found, left) =>
      match skip left.1 with
      | [] => .ok found
      | rest => .error (place (.flaw .extraData rest.length))

end Bindery.Format.Json

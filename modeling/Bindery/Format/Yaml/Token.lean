import Bindery.Data.Utf8
import Bindery.Format.Yaml.Scalar

/-!
# Tokens of YAML

What a YAML text is made of, and the readers of the tokens that are names: anchors, tags and
directives.
-/

namespace Bindery.Format.Yaml

open Bindery.Data

/-- What a tag is written as: a handle, unless it is written out, and what follows it. -/
structure TagName where
  handle : Option String
  suffix : String
  deriving DecidableEq, Repr

/-- An instruction before a document. -/
inductive Directive where
  | version (major : Nat)
  | handle (name meaning : String)
  | unknown
  deriving DecidableEq, Repr

/-- A token of a YAML text. A broken one is a scalar without a value, where a text can be read no
further. -/
inductive Token where
  | broken (cause : Error)
  | directive (directive : Directive)
  | documentStart
  | documentEnd
  | blockSequence
  | blockMapping
  | blockEnd
  | blockEntry
  | flowSequence
  | flowSequenceEnd
  | flowMapping
  | flowMappingEnd
  | flowEntry
  | key
  | value
  | reference (name : String)
  | anchor (name : String)
  | tag (name : TagName)
  | scalar (content : String) (plain : Bool)
  deriving DecidableEq, Repr

/-! ## Names -/

/-- Whether a character may stand in the name of an anchor, a handle or a directive. -/
def isNameChar (c : Char) : Bool := c.isAlphanum || c = '-' || c = '_'

/-- The name of an anchor or an alias, given the text after its sign, and what is left. -/
def anchorName (text : List Char) : Option (String × List Char) :=
  let name := text.takeWhile isNameChar
  let rest := text.drop name.length
  let ends := atGap rest || rest.head?.any fun c => "?:,]\x7d%@`".toList.contains c
  if name.isEmpty || ! ends then none else some (String.ofList name, rest)

/-! ## Tags -/

/-- Whether a character may stand in the suffix of a tag. -/
def isTagChar (c : Char) : Bool := c.isAlphanum || "-;/?:@&=+$,_.!~*'()[]%".toList.contains c

/-- The bytes that a run of escapes gives, and what is left after it. -/
def escapedBytes : List Char → Option (List UInt8 × List Char)
  | '%' :: high :: low :: rest => do
    let byte := 16 * (← Text.hexDigit? high) + (← Text.hexDigit? low)
    let (bytes, left) ← escapedBytes rest
    return (UInt8.ofNat byte :: bytes, left)
  | '%' :: _ => none
  | text => some ([], text)

/-- Characters of a tag with their escapes resolved: runs of escaped bytes are taken as UTF-8. -/
def resolveEscapes (fuel : Nat) (text : List Char) : Option (List Char) :=
  match fuel, text with
  | _, [] => some []
  | 0, _ => none
  | fuel + 1, c :: rest =>
    if c = '%' then do
      let (bytes, left) ← escapedBytes (c :: rest)
      let chars ← (Utf8.decode bytes).toOption
      return chars ++ (← resolveEscapes fuel left)
    else (resolveEscapes fuel rest).map (c :: ·)

/-- The suffix of a tag at the start of a text, and what is left. -/
def tagSuffix (text : List Char) : Option (String × List Char) := do
  let written := text.takeWhile isTagChar
  if written.isEmpty then none
  let suffix ← resolveEscapes written.length written
  return (String.ofList suffix, text.drop written.length)

/-- A handle at the start of a text: an exclamation mark, or a name between two. -/
def tagHandle : List Char → Option (String × List Char)
  | '!' :: rest =>
    if rest.head? = some ' ' then some ("!", rest)
    else
      let name := rest.takeWhile isNameChar
      match rest.drop name.length with
      | '!' :: left => some (String.ofList ('!' :: name ++ ['!']), left)
      | _ => none
  | _ => none

/-- A tag, given the text from its first exclamation mark, and what is left. -/
def tagName (text : List Char) : Option (TagName × List Char) := do
  let (name, rest) ←
    match text.drop 1 with
    | '<' :: uri =>
      match ← tagSuffix uri with
      | (suffix, '>' :: rest) => some (⟨none, suffix⟩, rest)
      | _ => none
    | rest =>
      if atGap rest then some (⟨none, "!"⟩, rest)
      else if (rest.takeWhile fun c => c ≠ ' ' && ! isBreak c).contains '!' then do
        let (handle, left) ← tagHandle text
        let (suffix, last) ← tagSuffix left
        some (⟨some handle, suffix⟩, last)
      else do
        let (suffix, left) ← tagSuffix rest
        some (⟨some "!", suffix⟩, left)
  if atSpace rest then some (name, rest) else none

/-! ## Directives -/

/-- The number at the start of a text, and what is left. -/
def versionNumber (text : List Char) : Except Error (Nat × List Char) :=
  let digits := text.takeWhile Char.isDigit
  if digits.isEmpty then .error .malformed
  else if digits.length > Text.maxDigits then
    .error (.unrepresentable (.hugeInteger digits.length))
  else .ok (Text.decimal digits, text.drop digits.length)

/-- The version that a directive gives, and what is left. -/
def version (text : List Char) : Except Error (Directive × List Char) := do
  match ← versionNumber text with
  | (major, '.' :: minor) =>
    let (_, rest) ← versionNumber minor
    if atSpace rest then return (.version major, rest) else throw .malformed
  | _ => throw .malformed

/-- The handle that a directive gives a meaning to, and what is left. -/
def handleMeaning (text : List Char) : Option (Directive × List Char) := do
  let (handle, rest) ← tagHandle text
  if rest.head? ≠ some ' ' then none
  let (meaning, left) ← tagSuffix (rest.dropWhile (· = ' '))
  if atSpace left then return (.handle handle meaning, left) else none

/-- What a directive of a name says, given the text after the name, and what is left. -/
def directiveBody (name : String) (text : List Char) : Except Error (Directive × List Char) :=
  match name with
  | "YAML" => version (text.dropWhile (· = ' '))
  | "TAG" => orMalformed (handleMeaning (text.dropWhile (· = ' ')))
  | _ => .ok (.unknown, text.dropWhile (! isBreak ·))

/-- A directive, given the text after its percent sign, and what is left after its line. -/
def directiveLine (text : List Char) : Except Error (Directive × List Char) := do
  let name := text.takeWhile isNameChar
  let rest := text.drop name.length
  if name.isEmpty || ! atSpace rest then throw .malformed
  let (directive, left) ← directiveBody (String.ofList name) rest
  return (directive, ← orMalformed (finishLine left))

end Bindery.Format.Yaml

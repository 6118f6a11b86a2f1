import Bindery.Data.Rest
import Bindery.Text.CharacterNames
import Bindery.Text.Compatibility
import Bindery.Text.Identifier
import Bindery.Text.Split

/-!
# Handlers in markup

A tag whose name starts with `@` tells what happens where its text is clicked: a handler that is
called with literal values, or a literal value alone.  Nothing is called here; `isHandler` tells
whether what is written after the equals sign can be read at all.
-/

namespace Bindery.Display.Handler

open Bindery.Data Bindery.Text

/-! ## Tokens -/

/-- A token of a literal value. -/
inductive Token where
  | number (imaginary : Bool)
  | text (octets : Bool)
  | word (name : String)
  | ellipsis
  | symbol (c : Char)
  /-- The end of a line outside brackets. -/
  | lineEnd
  deriving DecidableEq, Repr

/-- Whether a text is digits, with single underscores between some of them. -/
def isDigits (text : List Char) : Bool :=
  (split (· = '_') text).all fun part => ! part.isEmpty && part.all Char.isDigit

/-- Whether a text is a decimal integer. It starts with a zero only if it is zero. -/
def isInteger (text : List Char) : Bool :=
  let digits := text.filter (· ≠ '_')
  isDigits text && digits.length ≤ maxDigits && (digits.head? ≠ some '0' || digits.all (· = '0'))

/-- Whether a text is digits with a point among them. -/
def isFraction (text : List Char) : Bool :=
  match split (· = '.') text with
  | [whole, part] =>
    ! (whole.isEmpty && part.isEmpty) && (whole.isEmpty || isDigits whole) &&
      (part.isEmpty || isDigits part)
  | _ => false

/-- Whether a character separates the exponent of a number. -/
def marksExponent (c : Char) : Bool := c = 'e' || c = 'E'

/-- Whether a text is a number with a point or an exponent. -/
def isReal (text : List Char) : Bool :=
  let mantissa := text.takeWhile (! marksExponent ·)
  match text.dropWhile (! marksExponent ·) with
  | [] => isFraction mantissa
  | _ :: exponent =>
    let digits := if exponent.head?.any (· ∈ ['+', '-']) then exponent.drop 1 else exponent
    (isFraction mantissa || isDigits mantissa) && isDigits digits

/-- Whether a text is digits of a base, each with at most one underscore before it. -/
def isBased (isDigit : Char → Bool) (text : List Char) : Bool :=
  let text := if text.head? = some '_' then text.drop 1 else text
  (split (· = '_') text).all fun part => ! part.isEmpty && part.all isDigit

/-- The number that a text is: whether it is imaginary. -/
def number? (text : List Char) : Option Bool :=
  match text with
  | '0' :: base :: digits =>
    if base ∈ ['x', 'X'] then
      if isBased (fun c => (hexDigit? c).isSome) digits then some false else none
    else if base ∈ ['o', 'O'] then
      if isBased (· ∈ "01234567".toList) digits then some false else none
    else if base ∈ ['b', 'B'] then
      if isBased (· ∈ "01".toList) digits then some false else none
    else decimal? text
  | _ => decimal? text
where
  /-- The number that a text is in decimal digits. -/
  decimal? (text : List Char) : Option Bool :=
    if text.getLast?.any (· ∈ ['j', 'J']) then
      let body := text.dropLast
      if isDigits body || isReal body then some true else none
    else if isInteger text || isReal text then some false
    else none

/-- Whether a character can stand in a number after its start, given the one before it. A sign
can follow the mark of an exponent. -/
def continuesNumber (based : Bool) (before c : Char) : Bool :=
  c = '.' || continuesIdentifier c || (! based && marksExponent before && c ∈ ['+', '-'])

/-- The length of what can be a number at the start of a text. -/
def numberLength (based : Bool) (before : Char) : List Char → Nat
  | [] => 0
  | c :: rest => if continuesNumber based before c then 1 + numberLength based c rest else 0

/-- Whether the digits of a number that starts with a character are in another base. -/
def isBasedNumber (c : Char) (rest : List Char) : Bool :=
  c = '0' && rest.head?.any (· ∈ "xXoObB".toList)

/-! ## Texts -/

/-- Whether the escapes of a text between quotes can be read. -/
def escapesHold (octets : Bool) : List Char → Bool
  | [] => true
  | '\\' :: 'x' :: rest => hexadecimal 2 rest && escapesHold octets rest
  | '\\' :: 'u' :: rest => (octets || hexadecimal 4 rest) && escapesHold octets rest
  | '\\' :: 'U' :: rest =>
    (octets || hexadecimal 8 rest && ((hexadecimal? (rest.take 8)).any (· < 0x110000))) &&
      escapesHold octets rest
  | '\\' :: 'N' :: rest =>
    (octets || (rest.head? = some '\x7b' && rest.contains '\x7d' &&
      isCharacterName ((rest.drop 1).takeWhile (· ≠ '\x7d')))) && escapesHold octets rest
  | '\\' :: _ :: rest => escapesHold octets rest
  | c :: rest => (! octets || c.toNat < 0x80) && escapesHold octets rest
where
  /-- Whether a text starts with some hexadecimal digits. -/
  hexadecimal (count : Nat) (rest : List Char) : Bool :=
    (rest.take count).length = count && (rest.take count).all fun c => (hexDigit? c).isSome

/-- The length of a text between quotes with its closing quotes, and the text. -/
def quoted? (closing : List Char) : List Char → Option (Nat × List Char)
  | [] => none
  | '\\' :: c :: rest =>
    (quoted? closing rest).map fun (length, body) => (length + 2, '\\' :: c :: body)
  | c :: rest =>
    if closing.isPrefixOf (c :: rest) then some (closing.length, [])
    else if c = '\n' && closing.length = 1 then none
    else (quoted? closing rest).map fun (length, body) => (length + 1, c :: body)

/-- The length of the text in quotes that starts with a quote, and whether it is octets. -/
def textToken? (marks : List Char) (quote : Char) (rest : List Char) : Option (Nat × Token) := do
  let tripled := [quote, quote].isPrefixOf rest
  let opening := if tripled then 2 else 0
  let closing := if tripled then [quote, quote, quote] else [quote]
  let (length, body) ← quoted? closing (rest.drop opening)
  let octets := marks.contains 'b'
  let holds :=
    if marks.contains 'r' then ! octets || body.all (·.toNat < 0x80)
    else escapesHold octets body
  if holds then some (opening + length, .text octets) else none

/-- The letters that can stand before a text in quotes. -/
def textMarks : List (List Char) := ["r", "u", "b", "br", "rb"].map (·.toList)

/-! ## Tokenizing -/

/-- Whether a character is a quote. -/
def isQuote (c : Char) : Bool := c = '\'' || c = '"'

/-- The token that starts with a character, if it holds, and what follows it. -/
def token? (c : Char) (rest : List Char) : Option (Token × Rest (c :: rest)) :=
  if c.isDigit || (c = '.' && rest.head?.any Char.isDigit) then
    let length := numberLength (isBasedNumber c rest) c rest
    (number? (c :: rest.take length)).map fun imaginary =>
      (.number imaginary, .drop length c rest)
  else if ['.', '.', '.'].isPrefixOf (c :: rest) then some (.ellipsis, .drop 2 c rest)
  else if isQuote c then
    (textToken? [] c rest).map fun (length, token) => (token, .drop length c rest)
  else if startsIdentifier c then
    let name := c :: rest.takeWhile continuesIdentifier
    let after := rest.dropWhile continuesIdentifier
    match after with
    | quote :: body =>
      if isQuote quote then
        let marks := name.map Char.toLower
        if marks ∈ textMarks then
          (textToken? marks quote body).map fun (length, token) =>
            (token, .drop (name.length + length) c rest)
        else none
      else some (.word (String.ofList name), .drop (name.length - 1) c rest)
    | [] => some (.word (String.ofList name), .drop (name.length - 1) c rest)
  else if c ∈ "()\x7b\x7d,:+-".toList then some (.symbol c, .tail c rest)
  else none

/-- How a token changes the number of open brackets. -/
def Token.nesting (token : Token) (depth : Nat) : Nat :=
  match token with
  | .symbol c =>
    if c ∈ ['(', '\x7b'] then depth + 1 else if c ∈ [')', '\x7d'] then depth - 1 else depth
  | _ => depth

/-- The tokens of a text, given the number of open brackets. -/
def tokens? (depth : Nat) : List Char → Option (List Token)
  | [] => some []
  | c :: rest =>
    if c ∈ [' ', '\t', '\x0c'] then tokens? depth rest
    else if c = '\n' then
      if depth = 0 then (tokens? depth rest).map (.lineEnd :: ·) else tokens? depth rest
    else if c = '#' then tokens? depth (rest.dropWhile (· ≠ '\n'))
    else if c = '\\' then
      if rest.head? = some '\n' then tokens? depth (rest.drop 1) else none
    else match token? c rest with
      | some (token, after) => (tokens? (token.nesting depth) after.1).map (token :: ·)
      | none => none
termination_by text => text.length
decreasing_by
  all_goals first
    | exact Nat.lt_succ_self _
    | exact Nat.lt_succ_of_le (length_dropWhile_le _ _)
    | exact Nat.lt_succ_of_le (length_drop_le _ _)
    | exact after.2

/-! ## Values -/

/-- What matters about a literal value where it stands in another one. -/
inductive Literal where
  /-- A number without a sign. -/
  | number (imaginary : Bool)
  /-- A number with a sign. -/
  | signed (imaginary : Bool)
  /-- Another value that can be a key. -/
  | fixed
  /-- A value that cannot be a key. -/
  | changing
  deriving DecidableEq, Repr

/-- Whether a value can be a key. -/
def Literal.isKey (literal : Literal) : Bool := literal ≠ .changing

/-- The value of a tuple. -/
def Literal.tuple (items : List Literal) : Literal :=
  if items.all (·.isKey) then .fixed else .changing

/-- Reads a value from the start of some tokens and gives back what follows it. -/
abbrev Reader := List Token → Option (Literal × List Token)

/-- Reads one value without a sign, given how to read what an opening bracket starts. -/
def atom? (group : Char → Reader) : Reader
  | .number imaginary :: rest => some (.number imaginary, rest)
  | .text octets :: rest =>
    match rest.dropWhile (· = .text octets) with
    | .text _ :: _ => none
    | rest => some (.fixed, rest)
  | .word name :: .symbol '(' :: .symbol ')' :: rest =>
    if canonicalName name = "set" then some (.changing, rest) else none
  | .word name :: rest => if name ∈ ["True", "False", "None"] then some (.fixed, rest) else none
  | .ellipsis :: rest => some (.fixed, rest)
  | .symbol c :: rest => if c ∈ ['(', '\x7b'] then group c rest else none
  | _ => none

/-- Reads one value that may have a sign. -/
def signed? (group : Char → Reader) : Reader
  | .symbol '+' :: rest | .symbol '-' :: rest =>
    match atom? group rest with
    | some (.number imaginary, rest) => some (.signed imaginary, rest)
    | _ => none
  | tokens => atom? group tokens

/-- Reads one value. A real number and an imaginary one make a number together. -/
def value? (group : Char → Reader) (tokens : List Token) : Option (Literal × List Token) := do
  let (first, rest) ← signed? group tokens
  match rest with
  | .symbol '+' :: rest | .symbol '-' :: rest =>
    let (second, rest) ← atom? group rest
    if first ∈ [.number false, .signed false] && second = .number true then some (.fixed, rest)
    else none
  | _ => some (first, rest)

/-- Values with commas between them, some of which have another one after a colon. -/
structure Entries where
  list : List (Literal × Option Literal) := []
  /-- Whether a comma stands at the end. -/
  open_ : Bool := false

/-- Whether no more values follow. -/
def atEnd : List Token → Bool
  | [] | .lineEnd :: _ | .symbol ')' :: _ | .symbol '\x7d' :: _ => true
  | _ => false

/-- Reads values with commas between them, at most as many as given. -/
def entries? (read : Reader) : Nat → List Token → Option (Entries × List Token)
  | 0, _ => none
  | limit + 1, tokens =>
    if atEnd tokens then some (⟨[], true⟩, tokens)
    else do
      let (key, rest) ← read tokens
      let (value, rest) ←
        match rest with
        | .symbol ':' :: rest => (read rest).map fun (value, rest) => (some value, rest)
        | _ => some (none, rest)
      match rest with
      | .symbol ',' :: rest =>
        let (more, rest) ← entries? read limit rest
        some (⟨(key, value) :: more.list, more.open_⟩, rest)
      | _ => some (⟨[(key, value)], false⟩, rest)

/-- The value that entries make without braces around them. -/
def Entries.tuple? (entries : Entries) : Option Literal :=
  if entries.list.any (·.2.isSome) then none
  else match entries with
    | ⟨[(only, _)], false⟩ => some only
    | _ => some (.tuple (entries.list.map (·.1)))

/-- The value that entries make in braces. -/
def Entries.collection? (entries : Entries) : Option Literal :=
  let pairs := entries.list.countP (·.2.isSome)
  if (pairs = 0 || pairs = entries.list.length) && entries.list.all (·.1.isKey) then
    some .changing
  else none

/-- Reads what an opening bracket starts; brackets can be open inside each other to a depth. -/
def group? : Nat → Char → Reader
  | 0, _, _ => none
  | depth + 1, opening, tokens => do
    let (entries, rest) ← entries? (value? (group? depth)) (tokens.length + 1) tokens
    match rest with
    | .symbol closing :: rest =>
      if opening = '(' && closing = ')' then entries.tuple?.map (·, rest)
      else if opening = '\x7b' && closing = '\x7d' then entries.collection?.map (·, rest)
      else none
    | _ => none

/-- How many brackets can be open inside each other. -/
def maxNesting : Nat := 200

/-- The lines of a text, with one way to end a line. -/
def unifyLineEnds : List Char → List Char
  | [] => []
  | '\r' :: '\n' :: rest => '\n' :: unifyLineEnds rest
  | '\r' :: rest => '\n' :: unifyLineEnds rest
  | c :: rest => c :: unifyLineEnds rest

/-- Whether a text is a literal value. -/
def isLiteral (text : List Char) : Bool :=
  match tokens? 0 (unifyLineEnds text) with
  | none => false
  | some tokens =>
    let tokens := tokens.dropWhile (· = .lineEnd)
    match entries? (value? (group? maxNesting)) (tokens.length + 1) tokens with
    | some (entries, rest) =>
      ! entries.list.isEmpty && entries.tuple?.isSome && rest.all (· = .lineEnd)
    | none => false

/-! ## Handlers -/

/-- Whether a character can stand in the name of a handler. -/
def isNameChar (c : Char) : Bool := isAlphanumeric c || c = '_' || c = '.'

/-- Whether a text is a handler: a name that may have values in parentheses after it, or a literal
value. -/
def isHandler (text : List Char) : Bool :=
  let text := strip text
  let values := text.dropWhile isNameChar
  let called :=
    values.head? = some '(' && values.getLast? = some ')' && ! values.contains '\n'
  values.isEmpty || isLiteral (if called then values else text)

end Bindery.Display.Handler

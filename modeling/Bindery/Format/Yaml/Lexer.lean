import Bindery.Format.Yaml.Token

/-!
# Dividing a YAML text into tokens

Indentation opens and closes block collections.  A key of a mapping is recognised only at the
colon after it, so the lexer remembers where the last possible key starts and inserts the tokens
that announce a key there when the colon comes.
-/

namespace Bindery.Format.Yaml

/-! ## Places -/

/-- A place in a text: what is left from there, how much that is, and its line and column. -/
structure Cursor where
  rest : List Char
  left : Nat
  line : Nat := 0
  column : Nat := 0

namespace Cursor

/-- The start of a text. -/
def start (text : List Char) : Cursor := { rest := text, left := text.length }

/-- The place after a character. A byte order mark has no width. -/
def next (cursor : Cursor) : Cursor :=
  match cursor.rest with
  | [] => cursor
  | c :: rest =>
    if isBreak c then ⟨rest, cursor.left - 1, cursor.line + 1, 0⟩
    else if c = '\uFEFF' then ⟨rest, cursor.left - 1, cursor.line, cursor.column⟩
    else ⟨rest, cursor.left - 1, cursor.line, cursor.column + 1⟩

/-- The place after several characters. -/
def forward : Nat → Cursor → Cursor
  | 0, cursor => cursor
  | count + 1, cursor => forward count cursor.next

/-- The place where a later rest of the text starts. -/
def goto (cursor : Cursor) (rest : List Char) : Cursor :=
  cursor.forward (cursor.left - rest.length)

end Cursor

/-! ## The state of the lexer -/

/-- Where a key may have started: the number of tokens before it, its place, and whether there
has to be a key. -/
structure PossibleKey where
  before : Nat
  place : Cursor
  required : Bool

/-- What the lexer knows: where it is, the tokens before in reverse, their number, the columns
of the open block collections from the inside out, the possible key of the current collection and
those of the collections around it, one for each open flow collection, and whether a key may
start here. -/
structure Lexer where
  cursor : Cursor
  reversed : List Token := []
  count : Nat := 0
  columns : List Nat := []
  possible : Option PossibleKey := none
  outer : List (Option PossibleKey) := []
  keyAllowed : Bool := true

namespace Lexer

/-- Whether the lexer is inside a flow collection. -/
def inFlow (lexer : Lexer) : Bool := ! lexer.outer.isEmpty

/-- The text that is left. -/
def rest (lexer : Lexer) : List Char := lexer.cursor.rest

/-- Adds a token. -/
def emit (lexer : Lexer) (token : Token) : Lexer :=
  { lexer with reversed := token :: lexer.reversed, count := lexer.count + 1 }

/-- Adds tokens before those that came after a number of tokens. -/
def emitAfter (lexer : Lexer) (before : Nat) (tokens : List Token) : Lexer :=
  let late := lexer.count - before
  { lexer with
    reversed := lexer.reversed.take late ++ tokens.reverse ++ lexer.reversed.drop late
    count := lexer.count + tokens.length }

/-- Moves to a later rest of the text. -/
def goto (lexer : Lexer) (rest : List Char) : Lexer :=
  { lexer with cursor := lexer.cursor.goto rest }

/-- The column of the innermost open block collection is less than a column. -/
def isDeeper (lexer : Lexer) (column : Nat) : Bool := lexer.columns.head?.all (· < column)

/-- The least indentation of what lies within the innermost open block collection. -/
def innerColumn (lexer : Lexer) : Nat := (lexer.columns.head?.map (· + 1)).getD 0

/-- Closes the block collections that start right of a column. -/
def closeTo (lexer : Lexer) (column : Nat) : Lexer :=
  let closed := lexer.columns.takeWhile (column < ·)
  let ends := closed.map fun _ => Token.blockEnd
  { lexer with
    columns := lexer.columns.drop closed.length
    reversed := ends ++ lexer.reversed
    count := lexer.count + closed.length }

/-- Closes all block collections. -/
def closeAll (lexer : Lexer) : Lexer :=
  { lexer with
    columns := []
    reversed := (lexer.columns.map fun _ => Token.blockEnd) ++ lexer.reversed
    count := lexer.count + lexer.columns.length }

/-- The tokens that open a block collection at a column, if none is open there, and the lexer
that knows it to be open. -/
def openBlock (lexer : Lexer) (column : Nat) (token : Token) : Lexer × List Token :=
  if lexer.isDeeper column then ({ lexer with columns := column :: lexer.columns }, [token])
  else (lexer, [])

/-! ## Possible keys -/

/-- The most characters that a key without a mark may have, up to its colon. -/
def maxKeyLength : Nat := 1024

/-- Gives a possible key up; an error if there has to be one. -/
def dropKey (lexer : Lexer) : Except Error Lexer :=
  if lexer.possible.any (·.required) then .error .malformed
  else .ok { lexer with possible := none }

/-- Whether a possible key is over at a place: it may neither leave its line nor be too long. -/
def isStale (cursor : Cursor) (key : PossibleKey) : Bool :=
  key.place.line ≠ cursor.line || key.place.left - cursor.left > maxKeyLength

/-- Gives up the possible keys that are over. -/
def dropStale (lexer : Lexer) : Except Error Lexer :=
  let kept (key : Option PossibleKey) := key.filter (! isStale lexer.cursor ·)
  let lost (key : Option PossibleKey) : Bool :=
    key.any fun key => key.required && isStale lexer.cursor key
  if lost lexer.possible || lexer.outer.any lost then .error .malformed
  else .ok { lexer with possible := kept lexer.possible, outer := lexer.outer.map kept }

/-- Remembers that a key may start here. -/
def saveKey (lexer : Lexer) : Except Error Lexer :=
  if lexer.keyAllowed then do
    let required := ! lexer.inFlow && lexer.columns.head? = some lexer.cursor.column
    return { ← lexer.dropKey with possible := some ⟨lexer.count, lexer.cursor, required⟩ }
  else .ok lexer

/-! ## Tokens -/

/-- What is left after spaces, comments and line ends, and whether there were line ends. -/
def skipGaps (text : List Char) : List Char × Bool :=
  have bound : (skipComment (text.dropWhile (· = ' '))).length ≤ text.length :=
    Nat.le_trans (length_skipComment_le _) (Data.length_dropWhile_le (· = ' ') text)
  match shape : skipComment (text.dropWhile (· = ' ')) with
  | [] => ([], false)
  | c :: rest =>
    if isBreak c then
      have : rest.length < text.length := by rw [shape] at bound; exact bound
      ((skipGaps rest).1, true)
    else (c :: rest, false)
termination_by text.length

/-- Moves to the next token. After a line end a key may start, save in a flow collection. -/
def skip (lexer : Lexer) : Lexer :=
  let (rest, brokeLine) := skipGaps lexer.rest
  { lexer.goto rest with keyAllowed := lexer.keyAllowed || (brokeLine && ! lexer.inFlow) }

/-- Takes a directive or a mark that divides documents; all block collections end before it. -/
def outside (lexer : Lexer) (token : Token) (rest : List Char) : Except Error Lexer := do
  let closed ← lexer.closeAll.dropKey
  return ({ closed with keyAllowed := false }.goto rest).emit token

/-- Takes the bracket that opens a flow collection. -/
def openFlow (lexer : Lexer) (token : Token) : Except Error Lexer := do
  let saved ← lexer.saveKey
  return ({ saved with
    possible := none, outer := saved.possible :: saved.outer, keyAllowed := true }.goto
      (lexer.rest.drop 1)).emit token

/-- Takes the bracket that closes a flow collection. -/
def closeFlow (lexer : Lexer) (token : Token) : Except Error Lexer := do
  let dropped ← lexer.dropKey
  match dropped.outer with
  | [] => .error .malformed
  | possible :: outer =>
    return ({ dropped with possible := possible, outer := outer, keyAllowed := false }.goto
      (lexer.rest.drop 1)).emit token

/-- Takes the comma of a flow collection. -/
def flowEntry (lexer : Lexer) : Except Error Lexer := do
  let dropped ← lexer.dropKey
  return ({ dropped with keyAllowed := true }.goto (lexer.rest.drop 1)).emit .flowEntry

/-- Opens a block collection here, unless one is open; only where a key may start. -/
def openHere (lexer : Lexer) (token : Token) : Except Error Lexer :=
  if lexer.inFlow then .ok lexer
  else if ! lexer.keyAllowed then .error .malformed
  else
    let (opened, tokens) := lexer.openBlock lexer.cursor.column token
    .ok (tokens.foldl emit opened)

/-- Takes the dash of an item of a block sequence. -/
def blockEntry (lexer : Lexer) : Except Error Lexer := do
  let dropped ← (← lexer.openHere .blockSequence).dropKey
  return ({ dropped with keyAllowed := true }.goto (lexer.rest.drop 1)).emit .blockEntry

/-- Takes the question mark of a key. -/
def explicitKey (lexer : Lexer) : Except Error Lexer := do
  let dropped ← (← lexer.openHere .blockMapping).dropKey
  return ({ dropped with keyAllowed := ! lexer.inFlow }.goto (lexer.rest.drop 1)).emit .key

/-- Takes the colon of a value. If a key may have started, it did. -/
def colon (lexer : Lexer) : Except Error Lexer := do
  let announced ←
    match lexer.possible with
    | some key =>
      let (opened, tokens) :=
        if lexer.inFlow then (lexer, []) else lexer.openBlock key.place.column .blockMapping
      pure { opened.emitAfter key.before (tokens ++ [.key]) with
        possible := none, keyAllowed := false }
    | none =>
      pure { ← (← lexer.openHere .blockMapping).dropKey with keyAllowed := ! lexer.inFlow }
  return (announced.goto (lexer.rest.drop 1)).emit .value

/-- Takes a token that may start a key and after which none may start. -/
def keyPart (lexer : Lexer) (token : Token) (rest : List Char) : Except Error Lexer := do
  let saved ← lexer.saveKey
  return ({ saved with keyAllowed := false }.goto rest).emit token

/-- Takes a block scalar. -/
def blockScalar (lexer : Lexer) (folded : Bool) : Except Error Lexer := do
  let dropped ← lexer.dropKey
  let (content, rest) ← orMalformed (block folded (max 1 lexer.innerColumn) (lexer.rest.drop 1))
  let after := { dropped with keyAllowed := true }.goto rest
  return after.emit (.scalar (String.ofList content) false)

/-- Takes a quoted scalar. -/
def quotedScalar (lexer : Lexer) (double : Bool) : Except Error Lexer := do
  let (content, left) ← quoted double (lexer.rest.drop 1)
  lexer.keyPart (.scalar (String.ofList content) false) left.1

/-- Takes a plain scalar. -/
def plainScalar (lexer : Lexer) : Except Error Lexer := do
  let saved ← lexer.saveKey
  let found := plain lexer.inFlow lexer.innerColumn lexer.rest
  return ({ saved with keyAllowed := found.brokeLine }.goto found.rest).emit
    (.scalar (String.ofList found.content) true)

/-- Characters that start no plain scalar. -/
def indicators : List Char := "-?:,[]\x7b\x7d#&*!|>'\"%@`".toList

/-- Whether a plain scalar starts with a character. A dash may start one where no gap follows
it, and outside of flow collections so may a colon and a question mark. -/
def startsPlain (flow : Bool) (c : Char) (rest : List Char) : Bool :=
  ! (isWhite c || isBreak c || indicators.contains c) ||
    (! atGap rest && (c = '-' || (! flow && (c = '?' || c = ':'))))

/-- Takes the token that starts with a character. -/
def token (lexer : Lexer) (c : Char) (after : List Char) : Except Error Lexer :=
  let atStart := lexer.cursor.column = 0
  if atStart && c = '%' then do
    let (directive, rest) ← directiveLine after
    lexer.outside (.directive directive) rest
  else if atStart && atDocumentMark (c :: after) then
    lexer.outside (if c = '-' then .documentStart else .documentEnd) (after.drop 2)
  else if c = '[' then lexer.openFlow .flowSequence
  else if c = '\x7b' then lexer.openFlow .flowMapping
  else if c = ']' then lexer.closeFlow .flowSequenceEnd
  else if c = '\x7d' then lexer.closeFlow .flowMappingEnd
  else if c = ',' then lexer.flowEntry
  else if c = '-' && atGap after then lexer.blockEntry
  else if c = '?' && (lexer.inFlow || atGap after) then lexer.explicitKey
  else if c = ':' && (lexer.inFlow || atGap after) then lexer.colon
  else if c = '*' then do
    let (name, rest) ← orMalformed (anchorName after)
    lexer.keyPart (.reference name) rest
  else if c = '&' then do
    let (name, rest) ← orMalformed (anchorName after)
    lexer.keyPart (.anchor name) rest
  else if c = '!' then do
    let (name, rest) ← orMalformed (tagName (c :: after))
    lexer.keyPart (.tag name) rest
  else if c = '|' && ! lexer.inFlow then lexer.blockScalar false
  else if c = '>' && ! lexer.inFlow then lexer.blockScalar true
  else if c = '\'' then lexer.quotedScalar false
  else if c = '"' then lexer.quotedScalar true
  else if startsPlain lexer.inFlow c after then lexer.plainScalar
  else .error .malformed

/-- The tokens before a broken one. Those from a possible key on are still undecided, and
nothing is known of them. -/
def breakOff (lexer : Lexer) (cause : Error) : List Token :=
  let keys := (lexer.possible :: lexer.outer).filterMap id
  let undecided := (keys.filter (! isStale lexer.cursor ·)).map (·.before)
  lexer.reversed.reverse.take (undecided.foldl min lexer.count) ++ [.broken cause]

/-- The tokens of what is left of a text. -/
def run (lexer : Lexer) : Except Error (List Token) := do
  let ready ← lexer.skip.dropStale
  match ready.rest with
  | [] =>
    let closed ← ready.closeAll.dropKey
    return closed.reversed.reverse
  | c :: after =>
    let settled := if ready.inFlow then ready else ready.closeTo ready.cursor.column
    match settled.token c after with
    | .error .malformed => throw .malformed
    | .error cause => return lexer.breakOff cause
    | .ok next => if next.rest.length < lexer.rest.length then run next else throw .malformed
termination_by lexer.rest.length

end Lexer

/-- The tokens of a YAML text whose line ends are unified. -/
def tokens (text : List Char) : Except Error (List Token) :=
  Lexer.run { cursor := .start (if text.head? = some '\uFEFF' then text.drop 1 else text) }

end Bindery.Format.Yaml

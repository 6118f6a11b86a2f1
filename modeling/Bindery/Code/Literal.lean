import Bindery.Text.Printable

/-!
# Text literals of the emitted code

Three ways to write a text in Python source.  `quoted` is the ordinary literal on one line, and
`quotedBytes` the same for bytes.
`documentation` is the triple-quoted literal that opens a module, a class or a function and
keeps its line feeds.  `template` writes an f-string, whose parts share one choice of quotes.
-/

namespace Bindery.Code.Literal

open Bindery.Text

/-- The lowercase hexadecimal digit of a number below sixteen. -/
def hexDigit (n : Nat) : Char :=
  if n < 10 then Char.ofNat (48 + n) else Char.ofNat (87 + n)

/-- The last `width` hexadecimal digits of a number, the most significant first. -/
def hexDigits : (width : Nat) → Nat → List Char
  | 0, _ => []
  | width + 1, n => hexDigits width (n / 16) ++ [hexDigit (n % 16)]

/-- A character written by its code point, in two, four or eight digits. -/
def codeEscape (c : Char) : List Char :=
  if c.toNat < 0x100 then '\\' :: 'x' :: hexDigits 2 c.toNat
  else if c.toNat < 0x10000 then '\\' :: 'u' :: hexDigits 4 c.toNat
  else '\\' :: 'U' :: hexDigits 8 c.toNat

/-- A character as a literal shows it when quotes need no escape. -/
def escape (c : Char) : List Char :=
  if c = '\\' then ['\\', '\\']
  else if c = '\n' then ['\\', 'n']
  else if c = '\t' then ['\\', 't']
  else if c = '\r' then ['\\', 'r']
  else if isPrintable c then [c]
  else codeEscape c

/-! ## Literals on one line -/

/-- The quote of a one-line literal: double quotes only where they save an escape. -/
def quoteFor (text : List Char) : Char :=
  if '\'' ∈ text && '"' ∉ text then '"' else '\''

/-- The text between the quotes of a one-line literal. -/
def quotedBody (text : List Char) : List Char :=
  text.flatMap fun c => if c = quoteFor text then ['\\', c] else escape c

/-- A text as a literal on one line. -/
def quoted (text : String) : String :=
  let chars := text.toList
  String.ofList (quoteFor chars :: quotedBody chars ++ [quoteFor chars])

/-- Bytes as a literal on one line, where all but ASCII is escaped. -/
def quotedBytes (bytes : List UInt8) : String :=
  let chars := bytes.map fun byte => Char.ofNat byte.toNat
  let quote := quoteFor chars
  let body := chars.flatMap fun c =>
    if c = quote then ['\\', c] else if c.toNat < 0x80 then escape c else codeEscape c
  String.ofList ('b' :: quote :: body ++ [quote])

/-! ## Literals with few escapes -/

/-- The quote marks a literal may stand between. -/
inductive Quote where
  | single | double | tripleDouble | tripleSingle
  deriving DecidableEq, Repr

namespace Quote

/-- The character a quote mark is made of. -/
def mark : Quote → Char
  | single | tripleSingle => '\''
  | double | tripleDouble => '"'

/-- Whether a literal between these marks may hold a line feed. -/
def spansLines : Quote → Bool
  | single | double => false
  | tripleDouble | tripleSingle => true

/-- The quote mark as text. -/
def text (quote : Quote) : List Char :=
  List.replicate (if quote.spansLines then 3 else 1) quote.mark

/-- Every quote mark, the preferred one first. -/
def all : List Quote := [single, double, tripleDouble, tripleSingle]

/-- The quote marks of a literal with line feeds, the preferred one first. -/
def triples : List Quote := [tripleDouble, tripleSingle]

end Quote

/-- Whether a text occurs within another. -/
def occursIn (needle : List Char) : List Char → Bool
  | [] => needle.isEmpty
  | c :: rest => needle.isPrefixOf (c :: rest) || occursIn needle rest

/-- A character of a literal in which line feeds and tabs may stay as they are. -/
def escapeUnlessLayout (c : Char) : List Char :=
  if c = '\n' || c = '\t' then [c] else escape c

/-- The last character with a backslash before it. -/
def escapeLast (text : List Char) : List Char :=
  match text.getLast? with
  | none => []
  | some last => text.dropLast ++ ['\\', last]

/-- The body of a literal and the quote marks that remain possible for it.  A quote mark is out
when the body holds it, or when it cannot span the body's lines.  If none is left, the body is
that of the one-line literal.  Otherwise a mark that would touch the same character at the end
of the body is the last choice, and if there is no other, that character is escaped. -/
def fit (escapeChar : Char → List Char) (quotes : List Quote) (text : List Char) :
    List Char × List Quote :=
  let body := text.flatMap escapeChar
  let possible := quotes.filter fun quote =>
    (quote.spansLines || '\n' ∉ body) && ! occursIn quote.text body
  match possible, body.getLast? with
  | [], _ =>
    let mark := quoteFor text
    let fallback := (quotes.find? (·.mark = mark)).getD (if mark = '"' then .double else .single)
    (quotedBody text, [fallback])
  | _ :: _, none => (body, possible)
  | first :: more, some last =>
    let touches (quote : Quote) : Bool := quote.mark = last
    match possible.filter (! touches ·) ++ possible.filter touches with
    | [] => (body, first :: more)
    | best :: others => (if touches best then escapeLast body else body, best :: others)

/-- A body between the first of the quote marks. -/
def wrap (body : List Char) (quotes : List Quote) : List Char :=
  match quotes with
  | [] => body
  | quote :: _ => quote.text ++ body ++ quote.text

/-- A text as the literal that documents a module, a class or a function. -/
def documentation (text : String) : String :=
  let (body, quotes) := fit escapeUnlessLayout Quote.triples text.toList
  String.ofList (wrap body quotes)

/-- A text as a literal inside an f-string's braces, where backslashes are best avoided. -/
def embedded (text : String) : String :=
  let (body, quotes) := fit escapeUnlessLayout Quote.all text.toList
  String.ofList (wrap body quotes)

/-! ## F-strings -/

/-- A piece of an f-string: literal text, or the source of an expression. -/
inductive Piece where
  | literal (text : String)
  | source (code : String)
  deriving Repr

/-- A brace of the text of an f-string is written twice. -/
def doubleBraces (text : List Char) : List Char :=
  text.flatMap fun c => if c = '{' || c = '}' then [c, c] else [c]

/-- The body of one piece and the quote marks it leaves to the next. -/
def Piece.fit (quotes : List Quote) : Piece → List Char × List Quote
  | .literal text => Literal.fit escape quotes (doubleBraces text.toList)
  | .source code => Literal.fit escapeUnlessLayout quotes ('{' :: code.toList ++ ['}'])

/-- The bodies of pieces in order and the quote marks that are left after the last. -/
def fitAll : List Quote → List Piece → List Char × List Quote
  | quotes, [] => ([], quotes)
  | quotes, piece :: rest =>
    let (body, left) := piece.fit quotes
    let (bodies, last) := fitAll left rest
    (body ++ bodies, last)

/-- Whether a quote mark ends a body before its end. A character after a backslash is none. -/
def endsEarly (mark : List Char) : List Char → Bool
  | [] => false
  | '\\' :: _ :: rest => endsEarly mark rest
  | c :: rest => mark.isPrefixOf (c :: rest) || endsEarly mark rest

/-- Whether an f-string ends only where its body does. -/
def isClosed (pieces : List Piece) : Bool :=
  let (body, quotes) := fitAll Quote.all pieces
  quotes.head?.all fun quote => ! endsEarly quote.text body

/-- An f-string. -/
def template (pieces : List Piece) : String :=
  let (body, quotes) := fitAll Quote.all pieces
  String.ofList ('f' :: wrap body quotes)

end Bindery.Code.Literal

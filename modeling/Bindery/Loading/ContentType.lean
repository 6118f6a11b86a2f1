import Bindery.Format.Charset
import Bindery.Text.Case

/-!
# Types of content

A type of content has parameters after semicolons, each a name and a value with an equals sign
between them.  A value can stand in quotes, and then semicolons are part of it.  It can also come in
pieces, whose names have a star and maybe a number, and a further star if percent signs stand for
characters.
-/

namespace Bindery.Loading.ContentType

open Bindery.Format Bindery.Text

/-- The parts of a type between semicolons outside quotes, given the character before and whether
quotes are open. -/
def partsFrom (before : Char) (quoted : Bool) : List Char → List (List Char)
  | [] => [[]]
  | c :: rest =>
    if c = ';' && ! quoted then [] :: partsFrom c false rest
    else
      let quoted := if c = '"' && before ≠ '\\' then ! quoted else quoted
      match partsFrom c quoted rest with
      | part :: more => (c :: part) :: more
      | [] => [[c]]

/-- A text without backslashes before quotes and backslashes. -/
def unescape : List Char → List Char
  | '\\' :: '\\' :: rest => '\\' :: unescape rest
  | '\\' :: '"' :: rest => '"' :: unescape rest
  | c :: rest => c :: unescape rest
  | [] => []

/-- A value without the quotes or the angle brackets around it. -/
def unquote (value : List Char) : List Char :=
  let inside := (value.drop 1).dropLast
  if value.length < 2 then value
  else if value.head? = some '"' && value.getLast? = some '"' then unescape inside
  else if value.head? = some '<' && value.getLast? = some '>' then inside
  else value

/-- The name and the value of a parameter; one without an equals sign has no value. -/
def parameter (part : List Char) : String × List Char :=
  let value := (part.dropWhile (· ≠ '=')).drop 1
  (lower (String.ofList (strip (part.takeWhile (· ≠ '=')))), unquote (strip value))

/-- The parameters of a type. -/
def parameters (type : String) : List (String × List Char) :=
  (partsFrom ' ' false type.toList).map parameter

/-! ## Pieces -/

/-- A piece of a value: its number, if it has one, its text, and whether percent signs stand for
characters in it. -/
structure Piece where
  number : Option Nat
  text : List Char
  isEncoded : Bool
  deriving DecidableEq, Repr

/-- Whether a character can stand in a name. -/
def isNamePart (c : Char) : Bool := c.isAlphanum || c = '_'

/-- The name of a parameter and the number of its piece, if the parameter is one. -/
def pieceName? (name : List Char) : Option (List Char × Option Nat) :=
  let base := name.takeWhile isNamePart
  match name.dropWhile isNamePart with
  | '*' :: after =>
    let digits := after.takeWhile Char.isDigit
    let isWhole := after.length ≤ digits.length + 1 && (after.drop digits.length).all (· = '*')
    if base.isEmpty then none
    else if after.isEmpty then some (base, none)
    else if digits.isEmpty || ! isWhole then none
    else some (base, some (decimal digits))
  | _ => none

/-- The pieces of the value of a name among parameters. -/
def pieces (name : String) (parameters : List (String × List Char)) : List Piece :=
  parameters.filterMap fun (other, value) => do
    let (base, number) ← pieceName? other.toList
    if base = name.toList then some ⟨number, value, other.endsWith "*"⟩ else none

/-- Whether a piece comes before another one, or could. -/
def Piece.precedes (piece other : Piece) : Bool :=
  let place (piece : Piece) : Nat := (piece.number.map (· + 1)).getD 0
  place piece < place other ||
    (place piece = place other && String.ofList piece.text ≤ String.ofList other.text)

/-- A text with characters in the place of percent signs and two digits. -/
def unpercent : List Char → List Char
  | '%' :: high :: low :: rest =>
    match hexadecimal? [high, low] with
    | some code => Char.ofNat code :: unpercent rest
    | none => '%' :: unpercent (high :: low :: rest)
  | c :: rest => c :: unpercent rest
  | [] => []

/-- The set of characters that percent signs are in where none is named. -/
def plainSet : String := "us-ascii"

/-- A text whose characters stand for bytes in a set of characters, or the text itself if it cannot
be read that way. -/
def inSet (set text : List Char) : List Char :=
  let label := if set.isEmpty then plainSet else String.ofList set
  let bytes := text.map fun c => UInt8.ofNat c.toNat
  match (Charset.ofLabel? label).bind fun charset => (charset.decode bytes).toOption with
  | some chars => if Charset.replacement ∈ chars then text else chars
  | _ => text

/-- The value of pieces. Where one has percent signs, the value begins with the set of characters
that they are in and with a language, each before an apostrophe. -/
def ofPieces (pieces : List Piece) : List Char :=
  let text := (pieces.mergeSort Piece.precedes).flatMap fun piece =>
    if piece.isEncoded then unpercent piece.text else piece.text
  if ! pieces.any (·.isEncoded) then text
  else
    match split (· = '\'') text with
    | set :: _ :: first :: more => inSet set (join '\'' (first :: more))
    | _ => inSet [] text

/-! ## The set of characters -/

/-- The label of the set of characters that a type names. What comes first is no piece. -/
def charset? (type : String) : Option String :=
  let given := parameters type
  let pieces := pieces "charset" (given.drop 1)
  let label := (given.lookup "charset").or (if pieces.isEmpty then none else some (ofPieces pieces))
  match label with
  | some label => if label.all (·.toNat < 0x80) then some (lower (String.ofList label)) else none
  | none => none

end Bindery.Loading.ContentType

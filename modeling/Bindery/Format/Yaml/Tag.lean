import Bindery.Format.Yaml.Timestamp
import Bindery.Text.Split

/-!
# Kinds of YAML nodes

A `Tag` says what a node stands for.  A plain scalar without a tag has the one that its text
implies.
-/

namespace Bindery.Format.Yaml

/-- What a node stands for. A merge takes over the entries of other mappings; a default value
stands for the mapping that it is in. -/
inductive Tag where
  | null | bool | int | real | binary | time | text
  | sequence | mapping | set | ordered | pairs
  | merge | defaultValue
  | unknown
  deriving DecidableEq, Repr

namespace Tag

/-- What all the names of the known tags start with. -/
def standard : String := "tag:yaml.org,2002:"

/-- The known tags by name. -/
def names : List (String × Tag) := [
  ("null", null), ("bool", bool), ("int", int), ("float", real), ("binary", binary),
  ("timestamp", time), ("str", text), ("seq", sequence), ("map", mapping), ("set", set),
  ("omap", ordered), ("pairs", pairs), ("merge", merge), ("value", defaultValue)]

/-- The tag of a full name. -/
def ofName (name : String) : Tag :=
  ((names.find? fun (short, _) => standard ++ short = name).map (·.2)).getD unknown

/-! ## Implied tags -/

/-- Whether a character is a decimal digit or separates digits. -/
def isDigitOrGap (c : Char) : Bool := c.isDigit || c = '_'

/-- Whether a character is a hexadecimal digit. -/
def isHexDigit (c : Char) : Bool :=
  c.isDigit || ('a' ≤ c && c ≤ 'f') || ('A' ≤ c && c ≤ 'F')

/-- A text without its sign. -/
def unsigned : List Char → List Char
  | c :: rest => if c = '-' || c = '+' then rest else c :: rest
  | [] => []

/-- Whether a text is a place of a sexagesimal number after the first: up to 59. -/
def isSixtieth : List Char → Bool
  | [c] => c.isDigit
  | [c, d] => '0' ≤ c && c ≤ '5' && d.isDigit
  | _ => false

/-- Whether a text is a run of the later places of a sexagesimal number, each after a colon. -/
def areSixtieths : List Char → Bool
  | ':' :: rest => (Text.split (· = ':') rest).all isSixtieth
  | _ => false

/-- Whether a text is an integer: binary, octal, decimal, hexadecimal or sexagesimal. -/
def isInteger (text : List Char) : Bool :=
  match unsigned text with
  | [] => false
  | ['0'] => true
  | '0' :: 'b' :: digits => ! digits.isEmpty && digits.all fun c => c = '0' || c = '1' || c = '_'
  | '0' :: 'x' :: digits => ! digits.isEmpty && digits.all fun c => isHexDigit c || c = '_'
  | '0' :: digits => digits.all fun c => ('0' ≤ c && c ≤ '7') || c = '_'
  | c :: rest =>
    let tail := rest.dropWhile isDigitOrGap
    c.isDigit && (tail.isEmpty || areSixtieths tail)

/-- Whether a text is an exponent, which has a sign, or nothing. -/
def isExponent : List Char → Bool
  | [] => true
  | e :: sign :: digits =>
    (e = 'e' || e = 'E') && (sign = '-' || sign = '+') && ! digits.isEmpty &&
      digits.all Char.isDigit
  | _ => false

/-- Whether a text is a whole part, possibly sexagesimal, a point, and a fraction. -/
def isPointed (text : List Char) : Bool :=
  let whole := text.takeWhile isDigitOrGap
  let tail := text.drop whole.length
  whole.head?.any Char.isDigit &&
    match tail with
    | '.' :: rest => isExponent (rest.dropWhile isDigitOrGap)
    | _ =>
      let places := tail.takeWhile (· ≠ '.')
      match tail.drop places.length with
      | '.' :: rest => areSixtieths places && rest.all isDigitOrGap
      | _ => false

/-- Whether a text is a real number. -/
def isReal (text : List Char) : Bool :=
  isPointed (unsigned text) ||
    [".inf", ".Inf", ".INF"].contains (String.ofList (unsigned text)) ||
    [".nan", ".NaN", ".NAN"].contains (String.ofList text) ||
    match text with
    | '.' :: c :: rest => c.isDigit && isExponent (rest.dropWhile isDigitOrGap)
    | _ => false

/-- The words that are truth values. -/
def truthWords : List String := [
  "yes", "Yes", "YES", "no", "No", "NO", "true", "True", "TRUE", "false", "False", "FALSE",
  "on", "On", "ON", "off", "Off", "OFF"]

/-- The words that stand for nothing. -/
def nullWords : List String := ["", "~", "null", "Null", "NULL"]

/-- A text without the line feed at its end, if something is before it. -/
def withoutLineEnd (text : String) : String :=
  match text.toList.reverse with
  | '\n' :: c :: more => String.ofList (c :: more).reverse
  | _ => text

/-- The tag that the text of a plain scalar implies. A line feed at its end does not count. -/
def ofText (written : String) : Tag :=
  let plain := withoutLineEnd written
  let chars := plain.toList
  if plain ∈ truthWords then bool
  else if isReal chars then real
  else if isInteger chars then int
  else if plain = "<<" then merge
  else if plain ∈ nullWords then null
  else if Timestamp.isImplied chars then time
  else if plain = "=" then defaultValue
  else text

end Tag

end Bindery.Format.Yaml

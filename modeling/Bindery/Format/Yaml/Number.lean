import Bindery.Data.Double
import Bindery.Format.Unrepresentable
import Bindery.Text.Case
import Bindery.Text.Digits
import Bindery.Text.Split

/-!
# Numbers of YAML

The values of integers and real numbers.  Digits may be separated by underscores, integers have
four bases, and colons separate the places of sexagesimal numbers.
-/

namespace Bindery.Format.Yaml

open Bindery.Data

/-! ## Single numbers -/

/-- The letters after a zero that announce a base. -/
def baseLetters : List (Nat × Char) := [(2, 'b'), (8, 'o'), (16, 'x')]

/-- The digits of a number after the mark of its base, if it has one. -/
def withoutMark (base : Nat) (text : List Char) : List Char :=
  match text with
  | '0' :: letter :: rest =>
    if baseLetters.lookup base = some letter.toLower then rest else text
  | _ => text

/-- The value of a digit in a base. -/
def digitValue? (base : Nat) (c : Char) : Option Nat :=
  (Text.hexDigit? c).filter (· < base)

/-- The number that digits give in a base. -/
def digitsValue? (base : Nat) (digits : List Char) : Option Nat :=
  if digits.isEmpty then none
  else digits.foldlM (fun number c => (digitValue? base c).map (base * number + ·)) 0

/-- The sign of a number, as whether it is negative, and the rest of it. -/
def splitSign : List Char → Bool × List Char
  | '-' :: rest => (true, rest)
  | '+' :: rest => (false, rest)
  | text => (false, text)

/-- An integer in a base. Only decimal integers have a limit on their digits. -/
def integerIn (base : Nat) (text : List Char) : Except Unrepresentable Int :=
  let (negative, unsigned) := splitSign (Text.numeral text)
  let digits := withoutMark base unsigned
  match digitsValue? base digits with
  | none => .error (.notInteger base (String.ofList text))
  | some number =>
    if base = 10 && digits.length > Text.maxDigits then .error (.hugeInteger digits.length)
    else .ok (if negative then -number else number)

/-- A real number in decimal digits, or the name of one that has none. -/
def decimalReal? (text : List Char) : Option Double :=
  let (negative, unsigned) := splitSign text
  let word := String.ofList unsigned
  if word = "inf" || word = "infinity" then some (.infinite negative)
  else if word = "nan" then some .nan
  else do
    let whole := unsigned.takeWhile Char.isDigit
    let (fraction, tail) :=
      match unsigned.drop whole.length with
      | '.' :: rest => (rest.takeWhile Char.isDigit, rest.dropWhile Char.isDigit)
      | rest => ([], rest)
    if whole.isEmpty && fraction.isEmpty then none
    let exponent : Int ←
      match tail with
      | [] => some 0
      | e :: rest =>
        let (down, digits) := splitSign rest
        if e.toLower = 'e' && digits.all Char.isDigit then
          (digitsValue? 10 digits).map fun size => if down then -(size : Int) else size
        else none
    let digits := (digitsValue? 10 (whole ++ fraction)).getD 0
    return Double.ofDecimal negative digits (exponent - fraction.length)

/-- A real number in decimal digits. -/
def decimalReal (text : List Char) : Except Unrepresentable Double :=
  match decimalReal? (Text.numeral text) with
  | some value => .ok value
  | none => .error (.notReal (String.ofList text))

/-! ## Scalars -/

/-- The text of a number without separators. -/
def withoutGaps (text : String) : List Char := text.toList.filter (· ≠ '_')

/-- The value of an integer. -/
def integerValue (text : String) : Except Unrepresentable Int := do
  let joined := withoutGaps text
  let (negative, digits) := splitSign joined
  let size : Int ←
    match digits with
    | [] => throw .emptyNumber
    | ['0'] => pure 0
    | '0' :: 'b' :: rest => integerIn 2 rest
    | '0' :: 'x' :: rest => integerIn 16 rest
    | '0' :: _ => integerIn 8 digits
    | _ =>
      let places ← (Text.split (· = ':') digits).mapM (integerIn 10)
      pure (places.foldl (fun number place => 60 * number + place) 0)
  return if negative then -size else size

/-- The sum of the places of a sexagesimal number, the lowest first, each of which counts sixty
times the one before. -/
def sumPlaces (weight : Nat) (sum : Double) : List Double → Except Unrepresentable Double
  | [] => .ok sum
  | place :: more =>
    let factor := Double.ofFraction false weight 1
    if factor.isFinite then sumPlaces (60 * weight) (sum.add (place.multiply factor)) more
    else .error .tooLargeForReal

/-- The value of a real number. -/
def realValue (text : String) : Except Unrepresentable Double := do
  let joined := withoutGaps (Text.lower text)
  if joined.isEmpty then throw .emptyNumber
  let (negative, unsigned) := splitSign joined
  let size ←
    if unsigned = ".inf".toList then pure (Double.infinite false)
    else if unsigned = ".nan".toList then pure Double.nan
    else if unsigned.contains ':' then
      let places ← (Text.split (· = ':') unsigned).mapM decimalReal
      sumPlaces 1 (.finite false 0 0) places.reverse
    else decimalReal unsigned
  return if negative then size.negate else size

end Bindery.Format.Yaml

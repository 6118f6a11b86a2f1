/-!
# Double-precision numbers

A `Double` is the value of a binary floating-point number of double precision, kept exactly: a
whole number times a power of two.  `ofDecimal` rounds a decimal to the nearest such number and
`shortest` writes the shortest decimal that is rounded back to it.
-/

namespace Bindery.Data

/-- The value of a double-precision number. Zero has a sign. -/
inductive Double where
  | nan
  | infinite (negative : Bool)
  | finite (negative : Bool) (mantissa : Nat) (exponent : Int)
  deriving DecidableEq, Repr

namespace Double

/-- The quotient of two numbers rounded to the nearest whole number, ties to even. -/
def roundDiv (numerator denominator : Nat) : Nat :=
  let quotient := numerator / denominator
  let rest := 2 * (numerator % denominator)
  if rest > denominator || (rest = denominator && quotient % 2 = 1) then quotient + 1
  else quotient

/-- The fraction `numerator / denominator` times a power of a base. -/
def scale (base : Nat) (exponent : Int) (numerator denominator : Nat) : Nat × Nat :=
  if exponent ≥ 0 then (numerator * Nat.pow base exponent.toNat, denominator)
  else (numerator, denominator * Nat.pow base (-exponent).toNat)

/-- The exponent of the lowest bit of the nearest number to a positive fraction. -/
def lowestBit (numerator denominator : Nat) : Int :=
  let guess := max ((Nat.log2 numerator : Int) - Nat.log2 denominator - 53) (-1074)
  let (top, bottom) := scale 2 (-guess) numerator denominator
  if top / bottom ≥ Nat.pow 2 53 then guess + 1 else guess

/-- The nearest number to a fraction. A number has one form only: where rounding reaches the next
power of two, the lowest bit moves up. -/
def ofFraction (negative : Bool) (numerator denominator : Nat) : Double :=
  if numerator = 0 then .finite negative 0 0
  else
    let exponent := lowestBit numerator denominator
    let (top, bottom) := scale 2 (-exponent) numerator denominator
    let rounded := roundDiv top bottom
    let (mantissa, exponent) :=
      if rounded = Nat.pow 2 53 then (Nat.pow 2 52, exponent + 1) else (rounded, exponent)
    if exponent + Nat.log2 mantissa ≥ 1024 then .infinite negative
    else .finite negative mantissa exponent

/-- The number of decimal digits of a number; zero has none. -/
def digitCount (n : Nat) : Nat := if n = 0 then 0 else (Nat.toDigits 10 n).length

/-- The nearest number to `digits` times a power of ten. Exponents far out of range are settled
without forming the power. -/
def ofDecimal (negative : Bool) (digits : Nat) (exponent : Int) : Double :=
  if digits = 0 then .finite negative 0 0
  else if exponent + digitCount digits > 400 then .infinite negative
  else if exponent + digitCount digits < -400 then .finite negative 0 0
  else
    let (numerator, denominator) := scale 10 exponent digits 1
    ofFraction negative numerator denominator

/-- The whole number that a number equals, if it equals one. -/
def toInt? : Double → Option Int
  | finite negative mantissa exponent =>
    let (top, bottom) := scale 2 exponent mantissa 1
    if top % bottom = 0 then
      some (if negative then -(top / bottom : Nat) else (top / bottom : Nat))
    else none
  | _ => none

/-- Whether a number is neither infinite nor undefined. -/
def isFinite : Double → Bool
  | finite .. => true
  | _ => false

/-! ## Arithmetic -/

/-- The number with the opposite sign. -/
def negate : Double → Double
  | nan => nan
  | infinite negative => infinite !negative
  | finite negative mantissa exponent => finite (!negative) mantissa exponent

/-- The nearest number to the sum of two numbers. -/
def add : Double → Double → Double
  | nan, _ | _, nan => nan
  | infinite first, infinite second => if first = second then infinite first else nan
  | infinite negative, _ | _, infinite negative => infinite negative
  | finite first m d, finite second n e =>
    let lowest := min d e
    let part (negative : Bool) (mantissa : Nat) (exponent : Int) : Int :=
      let size : Int := Int.ofNat (mantissa * Nat.pow 2 (exponent - lowest).toNat)
      if negative then -size else size
    let sum := part first m d + part second n e
    let (top, bottom) := scale 2 lowest sum.natAbs 1
    if sum = 0 then finite (first && second) 0 0 else ofFraction (sum < 0) top bottom

/-- The nearest number to the product of two numbers. -/
def multiply : Double → Double → Double
  | nan, _ | _, nan => nan
  | infinite first, infinite second => infinite (first != second)
  | infinite first, finite second mantissa _ | finite first mantissa _, infinite second =>
    if mantissa = 0 then nan else infinite (first != second)
  | finite first m d, finite second n e =>
    let (top, bottom) := scale 2 (d + e) (m * n) 1
    ofFraction (first != second) top bottom

/-! ## Shortest decimals -/

/-- The position of the decimal point of a positive fraction: the number of digits before it. -/
def pointPosition (numerator denominator : Nat) : Int :=
  let guess : Int := digitCount numerator - digitCount denominator
  let (top, bottom) := scale 10 (-guess) numerator denominator
  if top ≥ bottom then guess + 1 else guess

/-- The decimals with a given number of digits next to a fraction that are read back as the
given number, the nearer one first. -/
def candidates (target : Double) (numerator denominator count : Nat) : List (Nat × Int) :=
  let exponent := pointPosition numerator denominator - count
  let (top, bottom) := scale 10 (-exponent) numerator denominator
  let near := roundDiv top bottom
  let below := top / bottom
  let far := if near = below then below + 1 else below
  ([near, far].filter fun digits => ofDecimal false digits exponent == target).map (·, exponent)

/-- The shortest decimal that is read back as a positive number: its digits and the power of ten
they are multiplied with. Seventeen digits always suffice. -/
def shortestDigits (mantissa : Nat) (exponent : Int) : Nat × Int :=
  let (numerator, denominator) := scale 2 exponent mantissa 1
  let target := ofFraction false numerator denominator
  let found := (List.range 17).flatMap fun count =>
    candidates target numerator denominator (count + 1)
  found.headD (0, 0)

/-- Digits with a decimal point, or with an exponent when the point is far away from them. -/
def layout (digits : Nat) (exponent : Int) : String :=
  let text := (Nat.toDigits 10 digits).reverse.dropWhile (· = '0') |>.reverse
  let point := exponent + (Nat.toDigits 10 digits).length
  if -4 < point ∧ point ≤ 16 then
    if point ≤ 0 then String.ofList ("0.".toList ++ List.replicate (-point).toNat '0' ++ text)
    else
      let whole := text.take point.toNat
      let padding := List.replicate (point.toNat - text.length) '0'
      let rest := text.drop point.toNat
      String.ofList (whole ++ padding ++ '.' :: (if rest.isEmpty then ['0'] else rest))
  else
    let power := point - 1
    let shown := toString power.natAbs
    let padded := if shown.length < 2 then "0" ++ shown else shown
    String.ofList (text.take 1 ++ (if text.length > 1 then '.' :: text.drop 1 else [])) ++
      (if power < 0 then "e-" else "e+") ++ padded

/-- The shortest text that is read back as a number. -/
def shortest : Double → String
  | nan => "nan"
  | infinite negative => if negative then "-inf" else "inf"
  | finite negative mantissa exponent =>
    let text :=
      if mantissa = 0 then "0.0"
      else
        let (digits, power) := shortestDigits mantissa exponent
        layout digits power
    if negative then "-" ++ text else text

end Double

end Bindery.Data

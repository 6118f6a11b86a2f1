/-!
# Punycode

How text is written in ASCII: its ASCII characters first, then a number for every other character
that says where it belongs.
-/

namespace Bindery.Format.Punycode

/-! ## Numbers -/

/-- The character of a digit below 36. -/
def digit (n : Nat) : Char := if n < 26 then Char.ofNat (97 + n) else Char.ofNat (22 + n)

/-- The number of a digit below 36, in lower case. -/
def digit? (c : Char) : Option Nat :=
  if 'a' ≤ c && c ≤ 'z' then some (c.toNat - 97)
  else if c.isDigit then some (c.toNat - 22)
  else none

/-- The least digit that does not end a number at a place. Places are 36 apart. -/
def threshold (bias place : Nat) : Nat :=
  if place ≤ bias then 1 else if place ≥ bias + 26 then 26 else place - bias

/-- A number in digits whose base depends on the place and on the bias. A place that the number
does not fill ends it. -/
def number (fuel bias place n : Nat) : List Char :=
  match fuel with
  | 0 => []
  | fuel + 1 =>
    let threshold := threshold bias place
    if n < threshold then [digit n]
    else
      let rest := n - threshold
      digit (threshold + rest % (36 - threshold)) ::
        number fuel bias (place + 36) (rest / (36 - threshold))

/-- A difference scaled down until it is small, with the bias gained on the way. -/
def scaleDown (fuel gained delta : Nat) : Nat :=
  match fuel with
  | 0 => gained
  | fuel + 1 =>
    if delta > 455 then scaleDown fuel (gained + 36) (delta / 35)
    else gained + 36 * delta / (delta + 38)

/-- The bias after a difference. -/
def adapt (delta handled : Nat) (first : Bool) : Nat :=
  let damped := if first then delta / 700 else delta / 2
  scaleDown damped 0 (damped + damped / handled)

/-! ## Writing -/

/-- What is known while the characters beyond ASCII are written: the difference since the last
one, the bias, the number of characters handled, whether none was written yet, and the text so
far. -/
structure State where
  delta : Nat
  bias : Nat
  handled : Nat
  first : Bool
  written : List Char

/-- Handles a character in a round for one code point: it is written if it has that code point,
and counted if its code point is smaller. -/
def State.step (code : Nat) (state : State) (c : Char) : State :=
  if c.toNat < code then { state with delta := state.delta + 1 }
  else if c.toNat = code then
    { delta := 0
      bias := adapt state.delta (state.handled + 1) state.first
      handled := state.handled + 1
      first := false
      written := state.written ++ number (state.delta + 1) state.bias 36 state.delta }
  else state

/-- The rounds for code points in ascending order, of which the first is at least `next`. -/
def rounds (label : List Char) (next : Nat) (state : State) : List Nat → State
  | [] => state
  | code :: more =>
    let ready := { state with delta := state.delta + (code - next) * (state.handled + 1) }
    let after := label.foldl (State.step code) ready
    rounds label (code + 1) { after with delta := after.delta + 1 } more

/-- The numbers of a list in ascending order, each once. -/
def ascendingCodes (codes : List Nat) : List Nat := (codes.mergeSort (· ≤ ·)).eraseDups

/-- A label in ASCII. -/
def encode (label : List Char) : List Char :=
  let plain := label.filter (·.toNat < 0x80)
  let codes := ascendingCodes ((label.map Char.toNat).filter (0x80 ≤ ·))
  let start := if plain.isEmpty then [] else plain ++ ['-']
  (rounds label 0x80 ⟨0, 72, plain.length, true, start⟩ codes).written

/-! ## Reading -/

/-- A number and the digits behind it, given what a digit counts and the sum so far. -/
def readNumber? (bias place weight sum : Nat) : List Char → Option (Nat × List Char)
  | [] => none
  | c :: rest => do
    let digit ← digit? c
    let sum := sum + digit * weight
    if digit < threshold bias place then some (sum, rest)
    else readNumber? bias (place + 36) (weight * (36 - threshold bias place)) sum rest

theorem length_readNumber? {bias place weight sum n : Nat} {text rest : List Char}
    (read : readNumber? bias place weight sum text = some (n, rest)) :
    rest.length < text.length := by
  induction text generalizing place weight sum with
  | nil => simp [readNumber?] at read
  | cons c more ih =>
    simp only [readNumber?, Option.bind_eq_bind, Option.bind_eq_some_iff] at read
    obtain ⟨value, _, read⟩ := read
    split at read
    · simp only [Option.some.injEq, Prod.mk.injEq] at read
      simp [← read.2]
    · exact Nat.lt_succ_of_lt (ih read)

/-- What numbers make of a text: its code points, and whether all numbers can be read and stand for
code points. -/
structure Reading where
  codes : List Nat
  isSound : Bool
  deriving DecidableEq, Repr

/-- What stands in the place of a code point that is too large. -/
def tooLarge : Nat := '?'.toNat

/-- Puts characters into a text where the rest of the numbers say, given the last character that
was put in and the place behind it. The first number that cannot be read ends it. -/
def insertAll (label : List Nat) (code place bias : Nat) (first sound : Bool) (text : List Char) :
    Reading :=
  if text.isEmpty then ⟨label, sound⟩
  else
    match read : readNumber? bias 36 1 0 text with
    | none => ⟨label, false⟩
    | some (delta, rest) =>
      let places := label.length + 1
      let next := code + (place + delta) / places
      let fits := next < 0x110000
      let code := if fits then next else tooLarge
      let place := (place + delta) % places
      insertAll (label.take place ++ code :: label.drop place) code (place + 1)
        (adapt delta places first) false (sound && fits) rest
termination_by text.length
decreasing_by exact length_readNumber? read

/-- What follows the last hyphen of a text: the numbers. -/
def numbers (text : List Char) : List Char := (text.reverse.takeWhile (· ≠ '-')).reverse

/-- What comes before the last hyphen of a text: the characters that are written as they are. -/
def plain (text : List Char) : List Char := text.take (text.length - (numbers text).length - 1)

/-- What the code points of the characters that are written as they are and numbers in lower case
say. -/
def read (plain : List Nat) (numbers : List Char) : Reading :=
  insertAll plain 0x80 0 72 true true numbers

/-- The code points of a label that is written in ASCII, in lower case. -/
def decode? (text : List Char) : Option (List Nat) :=
  let reading := read ((plain text).map Char.toNat) (numbers text)
  if reading.isSound then some reading.codes else none

end Bindery.Format.Punycode

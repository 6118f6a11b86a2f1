import Bindery.Code.Literal
import Bindery.Loading.HostLabelTable
import Bindery.Text.MarkTable
import Bindery.Text.Normal

/-!
# Labels of host names

What stands between the dots of a host name in any script, and which texts may stand there.  A
label is a list of code points, since one that was read from ASCII can hold any.
-/

namespace Bindery.Loading.HostLabel

open Bindery.Code Bindery.Text

/-! ## Flaws -/

/-- What is wrong with the directions of the characters of a label. Positions start at 1. -/
inductive Misdirection where
  | unknown (label : List Nat) (position : Nat)
  | atStart (label : List Nat)
  | inRightToLeft (position : Nat)
  | inLeftToRight (position : Nat)
  | mixedNumerals
  | atEnd
  deriving DecidableEq, Repr

/-- What is wrong with a label or with a name of labels. Positions start at 1. -/
inductive Flaw where
  | longName
  | longLabel
  | emptyLabel
  | notComposed
  | innerHyphens
  | outerHyphen
  | initialMark
  /-- Nothing follows the sign that a label is written in ASCII. -/
  | nothingWritten
  | finalHyphen
  | unreadable
  | character (code position : Nat) (label : List Nat)
  | joiner (code position : Nat) (label : List Nat)
  | context (code position : Nat) (label : List Nat)
  | direction (flaw : Misdirection)
  deriving DecidableEq, Repr

/-- A label as a literal. A code point without a character is escaped. -/
def shown (label : List Nat) : String :=
  let quote := Literal.quoteFor (label.map Char.ofNat)
  let body := label.flatMap fun code =>
    if ! code.isValidChar then '\\' :: 'u' :: Literal.hexDigits 4 code
    else if Char.ofNat code = quote then ['\\', quote]
    else Literal.escape (Char.ofNat code)
  String.ofList (quote :: body ++ [quote])

/-- A code point in at least four hexadecimal digits. -/
def codePoint (code : Nat) : String :=
  let digits := (Nat.toDigits 16 code).map Char.toUpper
  "U+" ++ String.ofList (List.replicate (4 - digits.length) '0' ++ digits)

/-- What is reported about the directions of the characters of a label. -/
def Misdirection.message : Misdirection → String
  | unknown label position =>
    "Unknown directionality in label " ++ shown label ++ " at position " ++ toString position
  | atStart label =>
    "First codepoint in label " ++ shown label ++ " must be directionality L, R or AL"
  | inRightToLeft position =>
    "Invalid direction for codepoint at position " ++ toString position ++
      " in a right-to-left label"
  | inLeftToRight position =>
    "Invalid direction for codepoint at position " ++ toString position ++
      " in a left-to-right label"
  | mixedNumerals => "Can not mix numeral types in a right-to-left label"
  | atEnd => "Label ends with illegal codepoint directionality"

/-- What is reported about a label or a name. -/
def Flaw.message : Flaw → String
  | longName => "Domain too long"
  | longLabel => "Label too long"
  | emptyLabel => "Empty Label"
  | notComposed => "Label must be in Normalization Form C"
  | innerHyphens => "Label has disallowed hyphens in 3rd and 4th position"
  | outerHyphen => "Label must not start or end with a hyphen"
  | initialMark => "Label begins with an illegal combining character"
  | nothingWritten => "Malformed A-label, no Punycode eligible content found"
  | finalHyphen => "A-label must not end with a hyphen"
  | unreadable => "Invalid A-label"
  | character code position label =>
    "Codepoint " ++ codePoint code ++ " at position " ++ toString position ++ " of " ++
      shown label ++ " not allowed"
  | joiner code position label =>
    "Unknown codepoint adjacent to joiner " ++ codePoint code ++ " at position " ++
      toString position ++ " in " ++ shown label
  | context code position label =>
    "Codepoint " ++ codePoint code ++ " not allowed at position " ++ toString position ++ " in " ++
      shown label
  | direction flaw => flaw.message

/-! ## Characters -/

/-- Whether a code point can stand anywhere in a label. -/
def isValid (code : Nat) : Bool :=
  validRuns.any fun (first, last, step) =>
    first ≤ code && code ≤ last && (code - first) % step = 0

/-- Whether a code point is a mark on what stands before it. -/
def isMark (code : Nat) : Bool := nonspacingMarks.contains code || spacingMarks.contains code

/-- Whether a code point is passed over where characters join. -/
def isTransparent (code : Nat) : Bool := nonspacingMarks.contains code && code ≠ 0x1171E

/-- The class of the marks that take the vowel from a letter. -/
def vowelKiller : Nat := 9

/-- Whether a code point that separates or joins its neighbours has the neighbours for it, given
the label before it in reverse and after it. -/
def isJoinerInPlace (code : Nat) (before after : List Nat) : Bool :=
  let nearest (side : List Nat) := (side.dropWhile isTransparent).head?
  before.head?.any (combiningClass · = vowelKiller) ||
    (code = 0x200C &&
      (nearest before).any (fun near => joinsBoth.contains near || joinsLeft.contains near) &&
      (nearest after).any (fun near => joinsBoth.contains near || joinsRight.contains near))

/-- The code points that separate or join their neighbours. -/
def joiners : List Nat := [0x200C, 0x200D]

/-- Whether a code point is a digit of the Arabic script. -/
def isArabicDigit (code : Nat) : Bool := 0x660 ≤ code && code ≤ 0x669

/-- Whether a code point is a digit of the Persian form of the Arabic script. -/
def isPersianDigit (code : Nat) : Bool := 0x6F0 ≤ code && code ≤ 0x6F9

/-- Whether a code point is one of those that some labels can have. -/
def isContextual (code : Nat) : Bool :=
  code ∈ [0xB7, 0x375, 0x5F3, 0x5F4, 0x30FB] || isArabicDigit code || isPersianDigit code

/-- Whether a label can have a contextual code point, given the label before it in reverse and
after it. -/
def fits (label : List Nat) (code : Nat) (before after : List Nat) : Bool :=
  if code = 0xB7 then before.head? = some 0x6C && after.head? = some 0x6C
  else if code = 0x375 then after.head?.any greekLetters.contains
  else if code = 0x30FB then
    label.any fun other =>
      other ≠ 0x30FB &&
        (hiragana.contains other || katakana.contains other || han.contains other)
  else if isArabicDigit code then ! label.any isPersianDigit
  else if isPersianDigit code then ! label.any isArabicDigit
  else before.head?.any hebrewLetters.contains

/-- Checks the characters of the rest of a label, given those before it in reverse. -/
def checkCharacters (label before : List Nat) : List Nat → Except Flaw Unit
  | [] => .ok ()
  | code :: rest =>
    let position := before.length + 1
    if isValid code then checkCharacters label (code :: before) rest
    else if code ∈ joiners then
      if isJoinerInPlace code before rest then checkCharacters label (code :: before) rest
      else .error (.joiner code position label)
    else if isContextual code then
      if fits label code before rest then checkCharacters label (code :: before) rest
      else .error (.context code position label)
    else .error (.character code position label)

/-! ## Directions -/

/-- How characters are directed. -/
inductive Direction where
  | leftToRight
  | rightToLeft
  | arabicLetter
  | arabicNumber
  | number
  | mark
  | neutral
  deriving DecidableEq, Repr

/-- Marks that do not stand above or below a letter, and are directed like one. -/
def directedMarks : List Nat := [0xCBF, 0xCC6, 0x11A07, 0x11A08, 0x11C3F]

/-- The direction of a code point that a label can have, if it is known. -/
def Direction.of? (code : Nat) : Option Direction :=
  if code = 0x2D || code ∈ joiners || HostLabel.neutral.contains code then some neutral
  else if (0x30 ≤ code && code ≤ 0x39) || isPersianDigit code then some number
  else if isArabicDigit code || (0x10D30 ≤ code && code ≤ 0x10D39) then some arabicNumber
  else if arabicLetters.contains code then some arabicLetter
  else if HostLabel.rightToLeft.contains code then some rightToLeft
  else if undirected.contains code then none
  else if nonspacingMarks.contains code && code ∉ directedMarks then some mark
  else some leftToRight

/-- Whether a label has a character that is written from right to left. -/
def Direction.turns (direction : Direction) : Bool :=
  direction ∈ [rightToLeft, arabicLetter, arabicNumber]

/-- Checks the directions of characters from right to left, given the position of the first one,
whether the label could end before it, and the direction of the numbers before it. -/
def checkRightToLeft (position : Nat) (canEnd : Bool) (numerals : Option Direction) :
    List Direction → Except Misdirection Unit
  | [] => if canEnd then .ok () else .error .atEnd
  | direction :: rest =>
    if direction = .leftToRight then .error (.inRightToLeft position)
    else if direction ∈ [.arabicNumber, .number] then
      if numerals.any (· ≠ direction) then .error .mixedNumerals
      else checkRightToLeft (position + 1) true (some direction) rest
    else
      checkRightToLeft (position + 1) (direction.turns || (direction = .mark && canEnd)) numerals
        rest

/-- Checks the directions of characters from left to right, given the position of the first one
and whether the label could end before it. -/
def checkLeftToRight (position : Nat) (canEnd : Bool) :
    List Direction → Except Misdirection Unit
  | [] => if canEnd then .ok () else .error .atEnd
  | direction :: rest =>
    if direction.turns then .error (.inLeftToRight position)
    else
      checkLeftToRight (position + 1)
        (direction ∈ [.leftToRight, .number] || (direction = .mark && canEnd)) rest

/-- Checks the directions of the characters of a label. Where all are from left to right, any
order will do. -/
def checkDirections (label : List Nat) : Except Misdirection Unit := do
  let directions := label.map Direction.of?
  let known := directions.takeWhile Option.isSome
  if known.length < directions.length then throw (.unknown label (known.length + 1))
  let directions := directions.reduceOption
  if directions.any Direction.turns then
    match directions.head? with
    | some .rightToLeft | some .arabicLetter => checkRightToLeft 1 false none directions
    | some .leftToRight => checkLeftToRight 1 false directions
    | _ => throw (.atStart label)

/-! ## Labels -/

/-- The most characters that a label can have before it is written in ASCII. -/
def maxLength : Nat := 254

/-- Checks a label. -/
def check (label : List Nat) : Except Flaw Unit := do
  if label.isEmpty then throw .emptyLabel
  if label.length > maxLength then throw .longLabel
  if ! isComposed label then throw .notComposed
  if (label.drop 2).take 2 = [0x2D, 0x2D] then throw .innerHyphens
  if label.head? = some 0x2D || label.getLast? = some 0x2D then throw .outerHyphen
  if label.head?.any isMark then throw .initialMark
  checkCharacters label [] label
  (checkDirections label).mapError .direction

end Bindery.Loading.HostLabel

import Bindery.Text.Combining
import Bindery.Text.Digits
import Bindery.Text.NormalTable
import Bindery.Text.Split

/-!
# Composed texts

The form of a text in which each letter and its marks are as few characters as possible: every
character is taken apart, the marks of a letter are put in order, and what belongs together is
put together again.  Texts are lists of code points here, so that they can hold any.
-/

namespace Bindery.Text

/-- A character and what it is taken apart to, from an entry of the table. -/
def decomposition? (entry : List Char) : Option (Nat × List Nat) := do
  let code ← hexadecimal? (entry.takeWhile (· ≠ '='))
  let parts ← (split (· = '+') ((entry.dropWhile (· ≠ '=')).drop 1)).mapM hexadecimal?
  if entry.contains '=' then some (code, parts) else none

/-- The characters that are taken apart, with what to. -/
def decompositions : List (Nat × List Nat) :=
  (split (fun c => c = ' ' || c = '\n') decompositionEntries.toList).filterMap decomposition?

/-! ## Syllables

A Korean syllable has a leading consonant, a vowel and at most one trailing consonant, and all
syllables follow each other. -/

/-- The first syllable. -/
def firstSyllable : Nat := 0xAC00

/-- The parts of a syllable. -/
def syllableParts? (code : Nat) : Option (List Nat) :=
  let place := code - firstSyllable
  if code < firstSyllable || 11172 ≤ place then none
  else
    let trailing := if place % 28 = 0 then [] else [0x11A7 + place % 28]
    some ([0x1100 + place / 588, 0x1161 + place % 588 / 28] ++ trailing)

/-- The syllable of two parts, or of a syllable and what trails. -/
def syllable? (first second : Nat) : Option Nat :=
  if 0x1100 ≤ first && first < 0x1113 && 0x1161 ≤ second && second < 0x1176 then
    some (firstSyllable + ((first - 0x1100) * 21 + (second - 0x1161)) * 28)
  else if firstSyllable ≤ first && first < firstSyllable + 11172 &&
      (first - firstSyllable) % 28 = 0 && 0x11A7 < second && second < 0x11C3 then
    some (first + (second - 0x11A7))
  else none

/-! ## Taking apart -/

/-- What a character is taken apart to in at most `steps` steps. -/
def takeApart (steps code : Nat) : List Nat :=
  match steps with
  | 0 => [code]
  | steps + 1 =>
    match (syllableParts? code).or (decompositions.lookup code) with
    | some parts => parts.flatMap (takeApart steps)
    | none => [code]

/-- The most steps that it takes to take a character apart. -/
def deepest : Nat := 4

/-- Puts a character before a text with marks in order, behind the marks that come before it. -/
def placeMark (code : Nat) : List Nat → List Nat
  | [] => [code]
  | next :: rest =>
    if combiningClass next ≠ 0 && combiningClass next < combiningClass code then
      next :: placeMark code rest
    else code :: next :: rest

/-- A text with all characters taken apart and their marks in order. -/
def decompose (text : List Nat) : List Nat :=
  (text.flatMap (takeApart deepest)).foldr placeMark []

/-! ## Putting together -/

/-- The character that two put together are. -/
def composite? (first second : Nat) : Option Nat :=
  (syllable? first second).or <|
    (decompositions.find? fun (whole, parts) =>
      parts = [first, second] && ! neverComposed.contains whole).map (·.1)

/-- Puts together what follows a character, given the marks after it that were kept, the last one
first. A mark is out of reach behind one of its own or a higher class. -/
def composeFrom (start : Nat) (kept : List Nat) : List Nat → List Nat
  | [] => start :: kept.reverse
  | code :: rest =>
    let isReached :=
      match kept with
      | [] => true
      | last :: _ => combiningClass last < combiningClass code
    match if isReached then composite? start code else none with
    | some whole => composeFrom whole kept rest
    | none =>
      if combiningClass code = 0 then (start :: kept.reverse) ++ composeFrom code [] rest
      else composeFrom start (code :: kept) rest

/-- A text with all characters put together that can be. -/
def compose (text : List Nat) : List Nat :=
  match decompose text with
  | [] => []
  | code :: rest => composeFrom code [] rest

/-- Whether a text is as few characters as possible. -/
def isComposed (text : List Nat) : Bool := text.all (· < 0xC0) || compose text = text

end Bindery.Text

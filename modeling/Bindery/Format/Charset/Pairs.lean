import Bindery.Format.Charset.Reading
import Bindery.Text.Blank
import Bindery.Text.Digits

/-!
# Pairs of bytes

East Asian sets of characters, in which ASCII has one byte and most characters have two.  Which
pair stands for which character is told by runs of characters that follow each other.
-/

namespace Bindery.Format.Charset

open Bindery.Text

/-- Characters by pairs of bytes: the first byte, the second one of the first character, and the
characters of the second bytes from there on. -/
structure PairRun where
  lead : Nat
  trail : Nat
  chars : Array Char
  deriving DecidableEq, Repr

/-- The run of a line, if it has one. -/
def PairRun.ofLine? (line : List Char) : Option PairRun := do
  let line := line.dropWhile (· = ' ')
  let lead ← hexadecimal? (line.take 2)
  let trail ← hexadecimal? ((line.drop 2).take 2)
  if line.isEmpty then none else some ⟨lead, trail, (line.drop 5).toArray⟩

/-- The runs of a table. -/
def pairRuns (table : String) : List PairRun := (lines table.toList).filterMap PairRun.ofLine?

/-- The character of a pair of bytes in runs. -/
def inRuns? (runs : List PairRun) (lead trail : Nat) : Option Char :=
  runs.findSome? fun run =>
    if run.lead = lead && run.trail ≤ trail then run.chars[trail - run.trail]? else none

/-- The character of a pair with the high bits set. -/
def highPair? (runs : List PairRun) (lead trail : Nat) : Option Char :=
  if 0xA1 ≤ lead && 0xA1 ≤ trail then inRuns? runs (lead - 0x80) (trail - 0x80) else none

/-- ASCII is one byte a character. -/
def asciiAlone? (byte : Nat) : Option Char := if byte < 0x80 then some (Char.ofNat byte) else none

/-- Reads some bytes that are characters alone, and pairs of others. -/
def readPairs (alone : Nat → Option Char) (pair : Nat → Nat → List Char) : Reader Unit :=
  fun _ first rest =>
    match alone first.toNat, rest with
    | some c, _ => .char () c
    | none, second :: _ =>
      match pair first.toNat second.toNat with
      | [] => .replaced ()
      | chars => ⟨chars, 1, ()⟩
    | none, [] => .replaced ()

/-- Reads some bytes that are characters alone, and pairs of others for one character each. -/
def readPair (alone : Nat → Option Char) (pair : Nat → Nat → Option Char) : Reader Unit :=
  readPairs alone fun lead trail => (pair lead trail).toList

end Bindery.Format.Charset

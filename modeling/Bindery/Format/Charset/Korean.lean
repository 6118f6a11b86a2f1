import Bindery.Format.Charset.KsTable
import Bindery.Format.Charset.Pairs

/-!
# Korean characters

The Korean sets.  One of them makes syllables of their letters, and so does another one for the
syllables that it leaves out.
-/

namespace Bindery.Format.Charset

open Bindery.Text

/-- The Korean set. -/
def ksX1001Runs : List PairRun := pairRuns ksX1001

/-! ## Syllables -/

/-- The letters that a syllable begins with, in order. -/
def initials : List Char := "ㄱㄲㄴㄷㄸㄹㅁㅂㅃㅅㅆㅇㅈㅉㅊㅋㅌㅍㅎ".toList

/-- The vowels of syllables, in order. -/
def vowels : List Char := "ㅏㅐㅑㅒㅓㅔㅕㅖㅗㅘㅙㅚㅛㅜㅝㅞㅟㅠㅡㅢㅣ".toList

/-- The letters that a syllable ends with, in order. -/
def finals : List Char := "ㄱㄲㄳㄴㄵㄶㄷㄹㄺㄻㄼㄽㄾㄿㅀㅁㅂㅄㅅㅆㅇㅈㅊㅋㅌㅍㅎ".toList

/-- The syllable of an initial and a vowel by their places, and of a final from one on, where
nothing stands for none. -/
def syllable (initial vowel final : Nat) : Char :=
  Char.ofNat (0xAC00 + initial * 588 + vowel * 28 + final)

/-! ## All syllables -/

/-- The Korean syllables that the Korean set leaves out, in order. -/
def otherSyllables : Array Char :=
  let syllables := ksX1001Runs.flatMap fun run => run.chars.toList
  let has := syllables.foldl (fun (has : Array Bool) c => has.setIfInBounds (c.toNat - 0xAC00) true)
    (Array.replicate 11172 false)
  ((List.range 11172).filterMap fun index =>
    if has[index]?.getD false then none else some (Char.ofNat (0xAC00 + index))).toArray

/-- The place of a second byte among those of the other syllables. -/
def syllableColumn? (trail : Nat) : Option Nat :=
  if 0x41 ≤ trail && trail ≤ 0x5A then some (trail - 0x41)
  else if 0x61 ≤ trail && trail ≤ 0x7A then some (trail - 0x61 + 26)
  else if 0x81 ≤ trail && trail ≤ 0xFE then some (trail - 0x81 + 52)
  else none

/-- The character of a pair in the Korean set with all syllables. -/
def unifiedHangul? (lead trail : Nat) : Option Char :=
  (highPair? ksX1001Runs lead trail).or do
    let column ← syllableColumn? trail
    if lead < 0x81 then none
    else if lead ≤ 0xA0 then otherSyllables[(lead - 0x81) * 178 + column]?
    else if lead ≤ 0xC6 && column < 84 then otherSyllables[32 * 178 + (lead - 0xA1) * 84 + column]?
    else none

/-! ## Syllables in eight bytes -/

/-- Reads Korean with high bits. A syllable that the set leaves out is written as a filler and
three letters, of which the last one can be the filler again. -/
def readEucKorean : Reader Unit := fun _ first rest =>
  let letter (byte : UInt8) : Option Char := highPair? ksX1001Runs 0xA4 byte.toNat
  match first.toNat, rest with
  | 0xA4, 0xD4 :: rest =>
    match rest with
    | 0xA4 :: initial :: 0xA4 :: vowel :: 0xA4 :: final :: _ =>
      let found := do
        let initial ← (letter initial).bind initials.idxOf?
        let vowel ← (letter vowel).bind vowels.idxOf?
        let final ←
          if final = 0xD4 then some 0 else ((letter final).bind finals.idxOf?).map (· + 1)
        return syllable initial vowel final
      match found with
      | some c => .char () c 7
      | none => .replaced ()
    | _ => .replaced () (if rest.length < 6 then 1 + rest.length else 0)
  | _, _ => readPair asciiAlone? (highPair? ksX1001Runs) () first rest

/-! ## Syllables in five bits a letter -/

/-- What five bits of a pair stand for: the lack of a letter, or a letter by its place. -/
inductive Slot where
  | filler
  | letter (place : Nat)
  deriving DecidableEq, Repr

/-- The initial of five bits. -/
def initialSlot? (bits : Nat) : Option Slot :=
  if bits = 1 then some .filler
  else if 2 ≤ bits && bits ≤ 20 then some (.letter (bits - 2))
  else none

/-- The vowel of five bits, which come in groups of six. -/
def vowelSlot? (bits : Nat) : Option Slot :=
  if bits = 2 then some .filler
  else if 3 ≤ bits && bits ≤ 29 && 2 ≤ bits % 8 then
    some (.letter (6 * (bits / 8) + bits % 8 - 3))
  else none

/-- The final of five bits. -/
def finalSlot? (bits : Nat) : Option Slot :=
  if bits = 1 then some .filler
  else if 2 ≤ bits && bits ≤ 17 then some (.letter (bits - 2))
  else if 19 ≤ bits && bits ≤ 29 then some (.letter (bits - 3))
  else none

/-- The character of the letters of a pair. A letter can stand alone. -/
def ofSlots? (initial vowel final : Slot) : Option Char :=
  match initial, vowel, final with
  | .filler, .filler, .filler => some '\u3000'
  | .filler, .filler, .letter final => finals[final]?
  | .filler, .letter vowel, .filler => vowels[vowel]?
  | .letter initial, .filler, .filler => initials[initial]?
  | .letter initial, .letter vowel, .filler => some (syllable initial vowel 0)
  | .letter initial, .letter vowel, .letter final => some (syllable initial vowel (final + 1))
  | _, _, _ => none

/-- The character of a pair in the Korean set that makes all syllables of letters. -/
def combined? (lead trail : Nat) : Option Char :=
  if lead < 0xD8 then do
    let initial ← initialSlot? (lead / 4 % 32)
    let vowel ← vowelSlot? (lead % 4 * 8 + trail / 32)
    let final ← finalSlot? (trail % 32)
    ofSlots? initial vowel final
  else if lead = 0xD8 || lead = 0xDF || 0xF9 < lead || trail < 0x31 ||
      (0x80 ≤ trail && trail < 0x91) || trail % 0x80 = 0x7F ||
      (lead = 0xDA && 0xA1 ≤ trail && trail ≤ 0xD3) then none
  else
    let row := if lead < 0xE0 then 2 * (lead - 0xD9) else 2 * lead - 0x197
    let column := if trail < 0x91 then trail - 0x31 else trail - 0x43
    if column < 0x5E then inRuns? ksX1001Runs (row + 0x21) (column + 0x21)
    else inRuns? ksX1001Runs (row + 0x22) (column - 0x5E + 0x21)

end Bindery.Format.Charset

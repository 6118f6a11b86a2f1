import Bindery.Format.Charset.JisExtensionTable
import Bindery.Format.Charset.JisTable
import Bindery.Format.Charset.Pairs

/-!
# Japanese characters

The Japanese sets, whose pairs of bytes are shifted among other bytes or have their high bits set.
The larger set has two planes, and two editions that differ in some characters.
-/

namespace Bindery.Format.Charset

/-! ## Tables -/

/-- The first Japanese set. -/
def jisX0208Runs : List PairRun := pairRuns jisX0208

/-- The second Japanese set. -/
def jisX0212Runs : List PairRun := pairRuns jisX0212

/-- What the Windows set for Japanese has of its own. -/
def windowsJapaneseRuns : List PairRun := pairRuns windowsJapanese

/-- What the first plane of the larger set has beside the first set. -/
def jisX0213FirstRuns : List PairRun := pairRuns jisX0213First

/-- The second plane of the larger set. -/
def jisX0213SecondRuns : List PairRun := pairRuns jisX0213Second

/-! ## Bytes alone -/

/-- The narrow Japanese letters are characters alone. -/
def narrowKana? (byte : Nat) : Option Char :=
  if 0xA1 ≤ byte && byte ≤ 0xDF then some (Char.ofNat (0xFEC0 + byte)) else none

/-- The bytes that are characters alone in the shifted set. -/
def shiftedAlone? (byte : Nat) : Option Char := (asciiAlone? byte).or (narrowKana? byte)

/-- The Japanese form of ASCII has a yen sign and an overline. -/
def romanAlone? (byte : Nat) : Option Char :=
  if byte = 0x5C then some '¥' else if byte = 0x7E then some '‾' else asciiAlone? byte

/-- The bytes that are characters alone in the Windows set for Japanese. -/
def windowsAlone? (byte : Nat) : Option Char :=
  if byte = 0x80 then some '\x80'
  else if byte = 0xA0 then some '\uf8f0'
  else if 0xFD ≤ byte then some (Char.ofNat (0xF8F1 + (byte - 0xFD)))
  else shiftedAlone? byte

/-! ## The larger set -/

/-- The editions of the larger set. -/
inductive Edition where
  | first | second
  deriving DecidableEq, Repr

/-- Pairs of the first plane that only the second edition has. -/
def addedPairs : List (Nat × Nat) := [
  (0x2E, 0x21), (0x2F, 0x7E), (0x4F, 0x54), (0x4F, 0x7E), (0x74, 0x27), (0x7E, 0x7A),
  (0x7E, 0x7B), (0x7E, 0x7C), (0x7E, 0x7D), (0x7E, 0x7E)]

/-- The characters of a pair of the first plane. A pair that is to come in a later edition is read
as one character. -/
def firstPlane (edition : Edition) (lead trail : Nat) : List Char :=
  if edition = .first && (lead, trail) ∈ addedPairs then [replacement]
  else
    match (inRuns? jisX0208Runs lead trail).or (inRuns? jisX0213FirstRuns lead trail) with
    | some c => [c]
    | none => ((jisX0213Joined.lookup (256 * lead + trail)).getD "").toList

/-- The character of a pair of the second plane. -/
def secondPlane? (edition : Edition) (lead trail : Nat) : Option Char :=
  if edition = .first && lead = 0x7D && trail = 0x3B then some '鬝'
  else inRuns? jisX0213SecondRuns lead trail

/-! ## Shifted pairs -/

/-- The row and the column of a shifted pair, both from nothing. -/
def unshifted? (lead trail : Nat) : Option (Nat × Nat) :=
  if (trail < 0x40 || trail = 0x7F || 0xFC < trail) ||
      ! ((0x81 ≤ lead && lead ≤ 0x9F) || (0xE0 ≤ lead && lead ≤ 0xFC)) then none
  else
    let row := if lead < 0xE0 then lead - 0x81 else lead - 0xC1
    let column := if trail < 0x80 then trail - 0x40 else trail - 0x41
    if column < 0x5E then some (2 * row, column) else some (2 * row + 1, column - 0x5E)

/-- The character of a shifted pair. -/
def shiftJis? (lead trail : Nat) : Option Char :=
  (unshifted? lead trail).bind fun (row, column) =>
    inRuns? jisX0208Runs (row + 0x21) (column + 0x21)

/-- The character of a pair in the Windows set for Japanese. Some pairs are for private use. -/
def windowsJapanese? (lead trail : Nat) : Option Char :=
  if 0xF0 ≤ lead && lead ≤ 0xF9 then
    if 0x40 ≤ trail && trail ≤ 0xFC && trail ≠ 0x7F then
      let column := if trail < 0x80 then trail - 0x40 else trail - 0x41
      some (Char.ofNat (0xE000 + 188 * (lead - 0xF0) + column))
    else none
  else (inRuns? windowsJapaneseRuns lead trail).or (shiftJis? lead trail)

/-- The lead of a row of the second plane, which has only some of the rows. -/
def secondPlaneLead (row : Nat) : Nat :=
  if 0x67 ≤ row then row + 0x07
  else if 0x63 ≤ row || row = 0x5F then row - 0x37
  else row - 0x3D

/-- The characters of a shifted pair of the larger set. Two of them have the place of a wide form
there. -/
def shiftedLarger (edition : Edition) (lead trail : Nat) : List Char :=
  match unshifted? lead trail with
  | none => []
  | some (row, column) =>
    let trail := column + 0x21
    if row < 0x5E then
      match row + 0x21, trail with
      | 0x21, 0x40 => ['\\']
      | 0x22, 0x32 => ['~']
      | lead, trail => firstPlane edition lead trail
    else (secondPlane? edition (secondPlaneLead row) trail).toList

/-- The bytes that are characters alone in the shifted form of the larger set. -/
def largerAlone? (byte : Nat) : Option Char := (romanAlone? byte).or (narrowKana? byte)

/-! ## High bits -/

/-- Reads Japanese with high bits: narrow letters after one byte, and another set after another. -/
def readHighJapanese (pair other : Nat → Nat → List Char) : Reader Unit := fun _ first rest =>
  let taken (chars : List Char) (more : Nat) : Step Unit :=
    if chars.isEmpty then .replaced () else ⟨chars, more, ()⟩
  let high (pair : Nat → Nat → List Char) (lead trail : UInt8) : List Char :=
    if lead < 0x80 || trail < 0x80 then [] else pair (lead.toNat - 0x80) (trail.toNat - 0x80)
  if first < 0x80 then .char () (Char.ofNat first.toNat)
  else match rest with
    | [] => .replaced ()
    | second :: rest =>
      if first = 0x8E then taken (narrowKana? second.toNat).toList 1
      else if first = 0x8F then
        match rest with
        | [] => .replaced () 1
        | third :: _ => taken (high other second third) 2
      else taken (high pair first second) 1

/-- Reads Japanese with high bits. -/
def readEucJapanese : Reader Unit :=
  readHighJapanese (fun lead trail => (inRuns? jisX0208Runs lead trail).toList)
    fun lead trail => (inRuns? jisX0212Runs lead trail).toList

/-- Reads the larger Japanese set with high bits. The second set fills what its second plane
leaves. -/
def readEucLarger (edition : Edition) : Reader Unit :=
  readHighJapanese (firstPlane edition) fun lead trail =>
    ((secondPlane? edition lead trail).or (inRuns? jisX0212Runs lead trail)).toList

end Bindery.Format.Charset

import Bindery.Format.Charset.Big5Table
import Bindery.Format.Charset.GbTable
import Bindery.Format.Charset.HongKongTable
import Bindery.Format.Charset.Pairs

/-!
# Chinese characters

The Chinese sets: simplified characters in up to four bytes, and traditional ones in two.
-/

namespace Bindery.Format.Charset

/-! ## Simplified characters -/

/-- The simplified Chinese set. -/
def gbkRuns : List PairRun := pairRuns gbk

/-- The character of a pair in the oldest Chinese set, which is a part of the later ones. -/
def gb2312? (lead trail : Nat) : Option Char :=
  if lead = 0xA1 && trail = 0xA4 then some '\u30fb'
  else if lead = 0xA1 && trail = 0xAA then some '\u2015'
  else if 0xA1 ≤ trail && ((0xA1 ≤ lead && lead ≤ 0xA9) || (0xB0 ≤ lead && lead ≤ 0xF7)) then
    if isLater lead trail then none else inRuns? gbkRuns lead trail
  else none
where
  /-- Whether a pair was added to rows that were there. -/
  isLater (lead trail : Nat) : Bool :=
    (lead = 0xA2 && trail < 0xB1) || (lead = 0xA6 && 0xD8 < trail) ||
      (lead = 0xA8 && 0xBA < trail && trail < 0xC5)

/-- The character of a pair in the latest Chinese set. -/
def gb18030? (lead trail : Nat) : Option Char :=
  let pair := 256 * lead + trail
  (inRuns? gbkRuns lead trail).or <|
    gb18030Pairs.findSome? fun (first, char, count) =>
      if first ≤ pair && pair < first + count then some (Char.ofNat (char + (pair - first)))
      else none

/-- The character of four bytes in the latest Chinese set. -/
def gb18030Quad? (first second third fourth : Nat) : Option Char :=
  if 0x81 ≤ first && first ≤ 0xFE && 0x81 ≤ third && third ≤ 0xFE && 0x30 ≤ fourth &&
      fourth ≤ 0x39 then
    let place := (((first - 0x81) * 10 + (second - 0x30)) * 126 + (third - 0x81)) * 10 +
      (fourth - 0x30)
    if first < 0x85 then
      if place < 39420 then
        (gb18030Quads.findRev? (·.1 ≤ place)).map fun (start, char) =>
          Char.ofNat (char + (place - start))
      else none
    else if 0x90 ≤ first then
      let code := 0x10000 + place - 15 * 12600
      if code < 0x110000 then some (Char.ofNat code) else none
    else none
  else none

/-- Reads Chinese in one, two or four bytes. -/
def readGb18030 : Reader Unit := fun _ first rest =>
  if first < 0x80 then .char () (Char.ofNat first.toNat)
  else match rest with
    | [] => .replaced ()
    | second :: rest =>
      if 0x30 ≤ second && second ≤ 0x39 then
        match rest with
        | third :: fourth :: _ =>
          .ofOption () (gb18030Quad? first.toNat second.toNat third.toNat fourth.toNat) 3
        | _ => .replaced () (1 + rest.length)
      else .ofOption () (gb18030? first.toNat second.toNat) 1

/-- The characters that a tilde leads to. -/
inductive Tilde where
  | ascii | pairs
  deriving DecidableEq, Repr

/-- Reads Chinese in seven bits, where tildes lead to pairs of bytes and back. -/
def readTildeChinese : Reader Tilde := fun state first rest =>
  match first.toNat, rest with
  | 0x7E, [] => .replaced state
  | 0x7E, second :: _ =>
    if state = .ascii && second = 0x7E then .char state '~' 1
    else if state = .ascii && second = 0x7B then .silent .pairs 1
    else if state = .ascii && second = 0x0A then .silent state 1
    else if state = .pairs && second = 0x7D then .silent .ascii 1
    else .replaced state
  | code, rest =>
    if 0x80 ≤ code then .replaced state
    else if state = .ascii then .char state (Char.ofNat code)
    else match rest with
      | second :: _ => .ofOption state (gb2312? (code + 0x80) (second.toNat + 0x80)) 1
      | [] => .replaced state

/-! ## Traditional characters -/

/-- The traditional Chinese set. -/
def big5Runs : List PairRun := pairRuns big5

/-- What the Windows set for traditional Chinese has of its own. -/
def windowsBig5Runs : List PairRun := pairRuns windowsBig5

/-- What Hong Kong adds to the traditional Chinese set. -/
def hongKongRuns : List PairRun := pairRuns hongKong

/-- The character of a pair in the Windows set for traditional Chinese. -/
def windowsBig5? (lead trail : Nat) : Option Char :=
  (inRuns? windowsBig5Runs lead trail).or (inRuns? big5Runs lead trail)

/-- Pairs of the Hong Kong set that stand for a letter with a second mark. -/
def hongKongMarked : List (Nat × String) := [
  (0x8862, "\u00CA\u0304"), (0x8864, "\u00CA\u030C"), (0x88A3, "\u00EA\u0304"),
  (0x88A5, "\u00EA\u030C")]

/-- The characters of a pair in the Hong Kong set, which has its own characters between the common
and the rare ones. -/
def hongKongPair (lead trail : Nat) : List Char :=
  let common := if 0xC6A1 ≤ 256 * lead + trail && lead ≤ 0xC8 then none
    else inRuns? big5Runs lead trail
  match common.or (inRuns? hongKongRuns lead trail) with
  | some c => [c]
  | none => ((hongKongMarked.lookup (256 * lead + trail)).getD "").toList

end Bindery.Format.Charset

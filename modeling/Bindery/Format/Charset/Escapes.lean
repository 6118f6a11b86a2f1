import Bindery.Format.Charset.Chinese
import Bindery.Format.Charset.Japanese
import Bindery.Format.Charset.Korean
import Bindery.Format.Charset.SingleByte

/-!
# Escapes between sets of characters

Seven bits in which escapes lead from one set of characters to another.  Three sets are at hand at
a time: one that is read, one that shifts lead to, and one for single characters.
-/

namespace Bindery.Format.Charset

/-! ## Sets -/

/-- How an escape names a set: by its last byte, and by whether its characters have two bytes. -/
structure Mark where
  final : UInt8
  isWide : Bool := false
  deriving DecidableEq, Repr

namespace Mark

def ascii : Mark := ⟨0x42, false⟩

def latin : Mark := ⟨0x41, false⟩

def greek : Mark := ⟨0x46, false⟩

end Mark

/-- A set of characters that escapes lead to. The second byte does not matter where characters have
one. -/
structure Designated where
  mark : Mark
  chars : Nat → Nat → List Char

namespace Designated

/-- A set of characters in one byte. -/
def narrow (final : Char) (char : Nat → Option Char) : Designated :=
  ⟨⟨UInt8.ofNat final.toNat, false⟩, fun byte _ => (char byte).toList⟩

/-- A set of characters in two bytes. -/
def wide (final : Char) (chars : Nat → Nat → List Char) : Designated :=
  ⟨⟨UInt8.ofNat final.toNat, true⟩, chars⟩

/-- A set of characters in two bytes, given as runs. -/
def ofRuns (final : Char) (runs : List PairRun) : Designated :=
  wide final fun lead trail => (inRuns? runs lead trail).toList

end Designated

/-- A code of escapes: the sets that they lead to, whether shifts lead to the second set, whether
there are single characters of the third one, and whether an escape can be preceded by another one
for the revision of its set. -/
structure EscapeCode where
  sets : List Designated
  hasShifts : Bool := false
  hasSingles : Bool := false
  hasRevisions : Bool := true

namespace EscapeCode

/-- The sets of the oldest Japanese code. -/
def japaneseSets : List Designated := [
  .ofRuns 'B' jisX0208Runs, .narrow 'J' romanAlone?, .ofRuns '@' jisX0208Runs]

def japanese : EscapeCode := { sets := japaneseSets }

def japanese1 : EscapeCode := { sets := japaneseSets ++ [.ofRuns 'D' jisX0212Runs] }

def japanese2 : EscapeCode where
  sets := japaneseSets ++ [
    .ofRuns 'D' jisX0212Runs, .ofRuns 'C' ksX1001Runs,
    .wide 'A' fun lead trail => (gb2312? (lead + 0x80) (trail + 0x80)).toList,
    .narrow 'A' fun _ => none, .narrow 'F' fun _ => none]
  hasSingles := true

def japaneseExtended : EscapeCode where
  sets := japaneseSets ++ [
    .ofRuns 'D' jisX0212Runs, .narrow 'I' fun byte => narrowKana? (byte + 0x80)]

/-- The code of the larger Japanese set, given the last byte for its first plane. -/
def larger (edition : Edition) (final : Char) : EscapeCode where
  sets := [
    .ofRuns 'B' jisX0208Runs,
    .wide final fun lead trail =>
      if lead = 0x22 && trail = 0x32 then ['~'] else firstPlane edition lead trail,
    .wide 'P' fun lead trail => (inRuns? jisX0213SecondRuns lead trail).toList]

def korean : EscapeCode where
  sets := [.ofRuns 'C' ksX1001Runs]
  hasShifts := true
  hasRevisions := false

end EscapeCode

/-! ## Escapes -/

/-- The sets at hand, whether the second one is read, whether an escape without a meaning is read,
and whether there was an escape without an end that is too long. -/
structure Shift where
  first : Mark := .ascii
  second : Mark := .ascii
  third : Mark := .ascii
  isShifted : Bool := false
  isPassing : Bool := false
  isOverlong : Bool := false
  deriving DecidableEq, Repr

/-- Whether a byte goes on with an escape to other characters. -/
def continuesEscape (byte : UInt8) : Bool := byte ∈ [0x28, 0x29, 0x24, 0x2E, 0x26]

/-- Whether a byte ends an escape. -/
def endsEscape (byte : UInt8) : Bool := 0x40 ≤ byte && byte ≤ 0x5A

/-- The most bytes of an escape whose end is still to come. -/
def maxUnfinished : Nat := 8

/-- How far an escape goes. -/
inductive Extent where
  | closed (length : Nat)
  /-- The bytes end before it does. -/
  | unfinished
  /-- It does not end where it could. -/
  | endless
  deriving DecidableEq, Repr

/-- How far an escape goes, given how many bytes are skipped, how many belong to it already, and
how many more can. -/
def extent (hasRevisions : Bool) (skipped taken : Nat) : Nat → List UInt8 → Extent
  | 0, _ => .endless
  | _ + 1, [] => .unfinished
  | left + 1, byte :: rest =>
    if 0 < skipped then extent hasRevisions (skipped - 1) (taken + 1) left rest
    else if endsEscape byte then .closed (taken + 1)
    else
      let isRevision := hasRevisions && byte = 0x26 && rest.head? = some 0x40
      extent hasRevisions (if isRevision then 2 else 0) (taken + 1) left rest

/-- The sets at hand after an escape, given its bytes after the first one. -/
def EscapeCode.designate? (code : EscapeCode) (state : Shift) (escape : List UInt8) :
    Option Shift :=
  let isKnown (mark : Mark) : Bool := mark = .ascii || code.sets.any (·.mark = mark)
  let first (mark : Mark) := if isKnown mark then some { state with first := mark } else none
  let second (mark : Mark) := if isKnown mark then some { state with second := mark } else none
  match escape with
  | [0x24, final] => first ⟨final, true⟩
  | [0x28, final] => first ⟨final, false⟩
  | [0x29, final] => second ⟨final, false⟩
  | [0x2E, final] =>
    let mark : Mark := ⟨final, false⟩
    if code.hasSingles && isKnown mark then some { state with third := mark } else none
  | [0x24, 0x28, final] => first ⟨final, true⟩
  | [0x24, 0x29, final] => second ⟨final, true⟩
  | [_, _, 0x1B, 0x24, 0x42] => if code.hasRevisions then first ⟨0x42, true⟩ else none
  | _ => none

/-- The Greek letter of a byte, in the oldest edition of its set. -/
def oldGreek? (byte : UInt8) : Option Char :=
  if byte ∈ [0xA4, 0xA5, 0xAA] then none
  else (singleByteSet? "iso8859_7").bind fun runs => charOf? runs byte

/-- The single character of a byte in the third set. -/
def single? (third : Mark) (byte : UInt8) : Option Char :=
  let other := if byte < 0x80 then byte + 0x80 else byte - 0x80
  if third = .latin then if byte < 0x80 then some (Char.ofNat other.toNat) else none
  else if third = .greek then oldGreek? other
  else asciiAlone? byte.toNat

/-- Reads an escape. -/
def EscapeCode.readEscape (code : EscapeCode) (state : Shift) (rest : List UInt8) : Step Shift :=
  match rest with
  | [] => .replaced state
  | kind :: after =>
    if continuesEscape kind then
      match extent code.hasRevisions 0 1 15 rest with
      | .unfinished =>
        .replaced { state with isOverlong := maxUnfinished ≤ rest.length } rest.length
      | .endless => .replaced state
      | .closed length =>
        match code.designate? state (rest.take (length - 1)) with
        | some state => .silent state (length - 1)
        | none => .replaced state (length - 1)
    else if code.hasSingles && kind = 0x4E then
      match after with
      | [] => .replaced state 1
      | byte :: _ =>
        match single? state.third byte with
        | some c => .char state c 2
        | none => .replaced state 2
    else .char { state with isPassing := true } '\x1b'

/-- Reads a character of a set. -/
def Designated.read (set : Designated) (state : Shift) (first : UInt8) (rest : List UInt8) :
    Step Shift :=
  let taken (chars : List Char) (more : Nat) : Step Shift :=
    if chars.isEmpty then .replaced state more else ⟨chars, more, state⟩
  if set.mark.isWide then
    match rest with
    | second :: _ => taken (set.chars first.toNat second.toNat) 1
    | [] => .replaced state
  else taken (set.chars first.toNat 0) 0

/-- Reads seven bits with escapes. -/
def readEscaped (code : EscapeCode) : Reader Shift := fun state first rest =>
  let c := Char.ofNat first.toNat
  if state.isPassing then .char { state with isPassing := ! endsEscape first } c
  else if first = 0x1B then code.readEscape state rest
  else if code.hasShifts && first = 0x0E then .silent { state with isShifted := true }
  else if code.hasShifts && first = 0x0F then .silent { state with isShifted := false }
  else if first = 0x0A then .char { state with isShifted := false } c
  else if first < 0x20 then .char state c
  else if 0x80 ≤ first then .replaced state
  else
    let mark := if state.isShifted then state.second else state.first
    match code.sets.find? (·.mark = mark) with
    | some set => set.read state first rest
    | none => .char state c

end Bindery.Format.Charset

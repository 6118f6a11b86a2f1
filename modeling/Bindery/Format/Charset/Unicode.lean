import Bindery.Data.Utf8
import Bindery.Format.Charset.Reading

/-!
# Forms of Unicode

Unicode in units of one, two or four bytes, in either order, and in seven bits.
-/

namespace Bindery.Format.Charset

open Bindery.Data

/-- Which byte of a unit comes first. -/
inductive ByteOrder where
  | littleEndian | bigEndian
  deriving DecidableEq, Repr

/-- The number that the bytes of a unit make. -/
def ByteOrder.number (order : ByteOrder) (bytes : List UInt8) : Nat :=
  let ordered := match order with
    | littleEndian => bytes.reverse
    | bigEndian => bytes
  ordered.foldl (fun number byte => 256 * number + byte.toNat) 0

/-! ## Units of one byte -/

/-- Reads one character in units of one byte. -/
def readUtf8 : Reader Unit := fun _ first rest =>
  match Utf8.read first rest with
  | .ok (c, more) => .char () c more
  | .error (_, found) => .replaced () found

/-- The mark at the start of text in units of one byte. -/
def utf8Mark : List UInt8 := [0xEF, 0xBB, 0xBF]

/-- Bytes without the mark at their start, or without what may be the start of a mark. -/
def withoutMark (bytes : List UInt8) : List UInt8 :=
  if utf8Mark.isPrefixOf bytes then bytes.drop utf8Mark.length
  else if bytes.isPrefixOf utf8Mark then []
  else bytes

/-! ## Units of two bytes -/

/-- Whether a unit is the first of two for one character. -/
def isHigh (unit : Nat) : Bool := 0xD800 ≤ unit && unit < 0xDC00

/-- Whether a unit is the second of two for one character. -/
def isLow (unit : Nat) : Bool := 0xDC00 ≤ unit && unit < 0xE000

/-- The character of two units. -/
def joined (high low : Nat) : Char :=
  Char.ofNat (0x10000 + (high - 0xD800) * 0x400 + (low - 0xDC00))

/-- Reads one character in units of two bytes. -/
def readUtf16 (order : ByteOrder) : Reader Unit := fun _ first rest =>
  match rest with
  | [] => .replaced ()
  | second :: rest =>
    let unit := order.number [first, second]
    if isHigh unit then
      match rest with
      | third :: fourth :: _ =>
        let next := order.number [third, fourth]
        if isLow next then .char () (joined unit next) 3 else .replaced () 1
      | _ => .replaced () (1 + rest.length)
    else if isLow unit then .replaced () 1
    else .char () (Char.ofNat unit) 1

/-! ## Units of four bytes -/

/-- Reads one character in units of four bytes. -/
def readUtf32 (order : ByteOrder) : Reader Unit := fun _ first rest =>
  match rest with
  | second :: third :: fourth :: _ =>
    let code := order.number [first, second, third, fourth]
    if code.isValidChar then .char () (Char.ofNat code) 3 else .replaced () 3
  | _ => .replaced () rest.length

/-! ## Seven bits -/

/-- What stands before a byte in seven bits: characters as they are, or a group of characters in
digits of base 64, with the bits that are left over and a first unit without its second. -/
inductive SevenBit where
  | direct
  | group (bits buffer : Nat) (high : Option Nat)
  deriving DecidableEq, Repr

/-- The value of a digit of base 64. -/
def base64Digit? (byte : UInt8) : Option Nat :=
  let code := byte.toNat
  if 65 ≤ code && code ≤ 90 then some (code - 65)
  else if 97 ≤ code && code ≤ 122 then some (code - 71)
  else if 48 ≤ code && code ≤ 57 then some (code + 4)
  else if code = 43 then some 62
  else if code = 47 then some 63
  else none

/-- Whether a byte stands for its own character in seven bits. -/
def isDirect (byte : UInt8) : Bool := byte < 0x80 && byte ≠ 43

/-- Reads a digit of a group. -/
def readDigit (bits buffer : Nat) (high : Option Nat) (digit : Nat) : Step SevenBit :=
  let bits := bits + 6
  let buffer := 64 * buffer + digit
  if bits < 16 then .silent (.group bits buffer high)
  else
    let unit := buffer / Nat.pow 2 (bits - 16)
    let left := buffer % Nat.pow 2 (bits - 16)
    let group := SevenBit.group (bits - 16) left
    match high with
    | some first =>
      if isLow unit then .char (group none) (joined first unit)
      else if isHigh unit then .replaced (group (some unit))
      else ⟨[replacement, Char.ofNat unit], 0, group none⟩
    | none =>
      if isHigh unit then .silent (group (some unit))
      else if isLow unit then .replaced (group none)
      else .char (group none) (Char.ofNat unit)

/-- Reads a byte outside groups. -/
def readDirect (byte : UInt8) (rest : List UInt8) : Step SevenBit :=
  if byte = 43 then
    match rest with
    | [] => .silent (.group 0 0 none)
    | next :: _ =>
      if next = 45 then .char .direct '+' 1
      else if (base64Digit? next).isSome then .silent (.group 0 0 none)
      else .replaced .direct 1
  else if isDirect byte then .char .direct (Char.ofNat byte.toNat)
  else .replaced .direct

/-- Reads a byte in seven bits. -/
def readUtf7 : Reader SevenBit := fun state byte rest =>
  match state with
  | .direct => readDirect byte rest
  | .group bits buffer high =>
    match base64Digit? byte with
    | some digit => readDigit bits buffer high digit
    | none =>
      if 6 ≤ bits || (0 < bits && buffer ≠ 0) then .replaced .direct
      else
        let alone := if high.isSome && isDirect byte then [replacement] else []
        if byte = 45 then ⟨alone, 0, .direct⟩
        else
          let step := readDirect byte rest
          { step with chars := alone ++ step.chars }

/-- What the end of text in seven bits gives. -/
def finishUtf7 : SevenBit → List Char
  | .direct => []
  | .group bits buffer high =>
    if high.isSome || 6 ≤ bits || (0 < bits && buffer ≠ 0) then [replacement] else []

end Bindery.Format.Charset

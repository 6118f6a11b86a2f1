/-!
# Reading UTF-8

`Utf8.decode` turns bytes into characters and reports the first place where they are not UTF-8:
which bytes are at fault, and whether a sequence starts wrongly, goes on wrongly or breaks off.
-/

namespace Bindery.Data.Utf8

/-- What is wrong with bytes. -/
inductive Flaw where
  | invalidStart | invalidContinuation | unexpectedEnd
  deriving DecidableEq, Repr

/-- The wording of a flaw. -/
def Flaw.message : Flaw → String
  | invalidStart => "invalid start byte"
  | invalidContinuation => "invalid continuation byte"
  | unexpectedEnd => "unexpected end of data"

/-- The bytes that are not UTF-8: the offset of the first, and how many they are. -/
structure Error where
  flaw : Flaw
  offset : Nat
  bytes : List UInt8
  deriving DecidableEq, Repr

/-- A byte in hexadecimal digits. -/
def hexByte (byte : UInt8) : String :=
  let digit (n : Nat) := if n < 10 then Char.ofNat (48 + n) else Char.ofNat (87 + n)
  String.ofList [digit (byte.toNat / 16), digit (byte.toNat % 16)]

/-- What is reported about bytes that are not UTF-8. -/
def Error.message (error : Error) : String :=
  "'utf-8' codec can't decode " ++
    (match error.bytes with
      | [byte] => "byte 0x" ++ hexByte byte ++ " in position " ++ toString error.offset
      | bytes =>
        "bytes in position " ++ toString error.offset ++ "-" ++
          toString (error.offset + bytes.length - 1)) ++
    ": " ++ error.flaw.message

/-- The number of bytes that a sequence has by its first byte, and the range of its second. -/
def sequence? (first : UInt8) : Option (Nat × UInt8 × UInt8) :=
  if first < 0x80 then some (1, 0x80, 0xBF)
  else if first < 0xC2 then none
  else if first < 0xE0 then some (2, 0x80, 0xBF)
  else if first = 0xE0 then some (3, 0xA0, 0xBF)
  else if first = 0xED then some (3, 0x80, 0x9F)
  else if first < 0xF0 then some (3, 0x80, 0xBF)
  else if first = 0xF0 then some (4, 0x90, 0xBF)
  else if first < 0xF4 then some (4, 0x80, 0xBF)
  else if first = 0xF4 then some (4, 0x80, 0x8F)
  else none

/-- The bits that the first byte of a sequence of a length contributes. -/
def leadBits (length : Nat) (first : UInt8) : Nat :=
  if length = 1 then first.toNat
  else if length = 2 then first.toNat % 0x20
  else if length = 3 then first.toNat % 0x10
  else first.toNat % 0x08

/-- How many of the bytes after the first belong to a sequence. -/
def continuations (low high : UInt8) : List UInt8 → Nat
  | [] => 0
  | second :: rest =>
    if low ≤ second && second ≤ high then
      1 + (rest.takeWhile fun byte => 0x80 ≤ byte && byte ≤ 0xBF).length
    else 0

/-- The character at the start of bytes and how many bytes after the first it takes; or what is
wrong there and how many bytes after the first are part of that. -/
def read (first : UInt8) (rest : List UInt8) : Except (Flaw × Nat) (Char × Nat) :=
  match sequence? first with
  | none => .error (.invalidStart, 0)
  | some (length, low, high) =>
    let found := continuations low high (rest.take (length - 1))
    if found + 1 < length then
      .error (if rest.length ≤ found then .unexpectedEnd else .invalidContinuation, found)
    else
      let code := (rest.take (length - 1)).foldl
        (fun number byte => 0x40 * number + byte.toNat % 0x40) (leadBits length first)
      .ok (Char.ofNat code, length - 1)

/-- The characters of bytes, given the offset of the first. -/
def decodeFrom (offset : Nat) (bytes : List UInt8) : Except Error (List Char) :=
  match bytes with
  | [] => .ok []
  | first :: rest =>
    match read first rest with
    | .error (flaw, found) => .error ⟨flaw, offset, first :: rest.take found⟩
    | .ok (c, more) =>
      match decodeFrom (offset + more + 1) (rest.drop more) with
      | .error error => .error error
      | .ok chars => .ok (c :: chars)
termination_by bytes.length
decreasing_by simp only [List.length_drop, List.length_cons]; omega

/-- The characters of bytes. -/
def decode (bytes : List UInt8) : Except Error (List Char) := decodeFrom 0 bytes

end Bindery.Data.Utf8

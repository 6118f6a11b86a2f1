/-!
# Base 64

Bytes written as text, six bits a character.  Characters that stand for nothing are passed over,
and the text ends where padding completes a group of four.
-/

namespace Bindery.Format.Base64

/-- The six bits of a character. -/
def bits? (c : Char) : Option Nat :=
  if 'A' ≤ c && c ≤ 'Z' then some (c.toNat - 65)
  else if 'a' ≤ c && c ≤ 'z' then some (c.toNat - 71)
  else if c.isDigit then some (c.toNat + 4)
  else if c = '+' then some 62
  else if c = '/' then some 63
  else none

/-- The bytes of a text, given the characters that the current group of four has, the bits of
them that are in no byte yet, and the padding after them. An incomplete group is an error. -/
def decodeFrom (filled left padding : Nat) : List Char → Option (List UInt8)
  | [] => if filled = 0 then some [] else none
  | c :: rest =>
    if c = '=' then
      if filled ≥ 2 && filled + padding + 1 ≥ 4 then some []
      else decodeFrom filled left (if filled ≥ 2 then padding + 1 else padding) rest
    else
      match bits? c with
      | none => decodeFrom filled left padding rest
      | some bits =>
        match filled with
        | 0 => decodeFrom 1 bits 0 rest
        | 1 => (decodeFrom 2 (bits % 16) 0 rest).map (UInt8.ofNat (4 * left + bits / 16) :: ·)
        | 2 => (decodeFrom 3 (bits % 4) 0 rest).map (UInt8.ofNat (16 * left + bits / 4) :: ·)
        | _ => (decodeFrom 0 0 0 rest).map (UInt8.ofNat (64 * left + bits) :: ·)

/-- The bytes of a text. -/
def decode (text : List Char) : Option (List UInt8) := decodeFrom 0 0 0 text

end Bindery.Format.Base64

import Bindery.Format.Charset.Reading
import Bindery.Text.Digits

/-!
# Characters after backslashes

Bytes that stand for the characters of the same number, and backslashes that stand for others.
-/

namespace Bindery.Format.Charset

open Bindery.Text

/-- Characters that a backslash and a letter stand for. -/
def backslashed : List (Char × Char) := [
  ('\\', '\\'), ('\'', '\''), ('"', '"'), ('b', '\x08'), ('f', '\x0c'), ('t', '\t'), ('n', '\n'),
  ('r', '\r'), ('v', '\x0b'), ('a', '\x07')]

/-- The characters of bytes, each of the same number. -/
def latin (bytes : List UInt8) : List Char := bytes.map fun byte => Char.ofNat byte.toNat

/-- Reads a number of hexadecimal digits after a backslash and a letter. Fewer digits mean
nothing. -/
def readHexadecimal (count : Nat) (rest : List UInt8) : Step Unit :=
  let digits := latin (rest.take count)
  let valid := digits.takeWhile fun c => (hexadecimal? [c]).isSome
  match hexadecimal? valid with
  | some code =>
    if valid.length < count then .replaced () (1 + valid.length)
    else if code.isValidChar then .char () (Char.ofNat code) (1 + count)
    else .replaced () (1 + count)
  | none => .replaced () (1 + valid.length)

/-- Whether a character is an octal digit. -/
def isOctal (c : Char) : Bool := '0' ≤ c && c ≤ '7'

/-- Reads up to three octal digits after a backslash. -/
def readOctal (rest : List UInt8) : Step Unit :=
  let digits := (latin (rest.take 3)).takeWhile isOctal
  let code := digits.foldl (fun code c => 8 * code + (c.toNat - 48)) 0
  .char () (Char.ofNat code) digits.length

/-- Reads a character by its name after a backslash and a letter. No names are known. -/
def readNamed (rest : List UInt8) : Step Unit :=
  match latin rest with
  | '{' :: more =>
    let name := more.takeWhile (· ≠ '}')
    if name.length = more.length then .replaced () (2 + name.length)
    else if name.isEmpty then .replaced () 2
    else .replaced () (3 + name.length)
  | _ => .replaced () 1

/-- Reads a byte, or a backslash and what it stands for. -/
def readBackslashes : Reader Unit := fun _ first rest =>
  if first ≠ 0x5C then .char () (Char.ofNat first.toNat)
  else
    match latin (rest.take 1) with
    | [] => .replaced ()
    | kind :: _ =>
      match kind with
      | '\n' => .silent () 1
      | 'x' => readHexadecimal 2 (rest.drop 1)
      | 'u' => readHexadecimal 4 (rest.drop 1)
      | 'U' => readHexadecimal 8 (rest.drop 1)
      | 'N' => readNamed (rest.drop 1)
      | kind =>
        if isOctal kind then readOctal rest
        else
          match backslashed.lookup kind with
          | some c => .char () c 1
          | none => ⟨['\\', kind], 1, ()⟩

/-- Reads a byte, or a backslash before the number of a character. -/
def readNumbered : Reader Unit := fun _ first rest =>
  if first ≠ 0x5C then .char () (Char.ofNat first.toNat)
  else
    match latin (rest.take 1) with
    | 'u' :: _ => readHexadecimal 4 (rest.drop 1)
    | 'U' :: _ => readHexadecimal 8 (rest.drop 1)
    | kind :: _ => ⟨['\\', kind], 1, ()⟩
    | [] => .char () '\\'

end Bindery.Format.Charset

import Bindery.Format.Charset.Reading
import Bindery.Format.Charset.SingleByteTable
import Bindery.Text.Blank
import Bindery.Text.Digits
import Bindery.Text.Split

/-!
# Reading one byte a character

Sets of characters in which every byte is a character or means nothing.
-/

namespace Bindery.Format.Charset

open Bindery.Text

/-- A run of bytes: the first of them, its character if it has one, and how many they are. -/
structure ByteRun where
  first : Nat
  char : Option Nat
  count : Nat
  deriving DecidableEq, Repr

/-- The run of a word. -/
def ByteRun.ofWord (word : List Char) : ByteRun :=
  let parts := split (· = '=') word
  let image := (parts[1]?.getD []).takeWhile (· ≠ '+')
  let count := ((parts[1]?.getD []).dropWhile (· ≠ '+')).drop 1
  { first := (hexadecimal? (parts.head?.getD [])).getD 0
    char := if image.isEmpty then none else hexadecimal? image
    count := if count.isEmpty then 1 else decimal count }

/-- The words of a text, apart from its blanks. -/
def wordsOf (text : String) : List (List Char) :=
  (split isBlank text.toList).filter (! ·.isEmpty)

/-- The character of a byte, if it has one, given the runs of a set. -/
def charOf? (runs : List ByteRun) (byte : UInt8) : Option Char :=
  let code := byte.toNat
  match runs.find? fun run => run.first ≤ code && code < run.first + run.count with
  | some run => run.char.map fun char => Char.ofNat (char + (code - run.first))
  | none => some (Char.ofNat code)

/-- The set of a name. -/
def singleByteSet? (name : String) : Option (List ByteRun) :=
  (singleByteSets.lookup name).map fun text => (wordsOf text).map ByteRun.ofWord

/-- Reads one byte. -/
def readSingle (runs : List ByteRun) : Reader Unit := fun _ byte _ =>
  .ofOption () (charOf? runs byte)

end Bindery.Format.Charset

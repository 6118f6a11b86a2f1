import Bindery.Text.Blank

/-!
# Digits

The numbers that decimal and hexadecimal digits give, and how a number may be written: in the
decimal digits of any script, and with blanks around it.
-/

namespace Bindery.Text

/-- The most decimal digits that an integer is read from or written in. -/
def maxDigits : Nat := 4300

/-- The number that decimal digits give. -/
def decimal (digits : List Char) : Nat :=
  digits.foldl (fun number c => 10 * number + (c.toNat - 48)) 0

/-- The value of a hexadecimal digit. -/
def hexDigit? (c : Char) : Option Nat :=
  if c.isDigit then some (c.toNat - 48)
  else if 'a' ≤ c && c ≤ 'f' then some (c.toNat - 87)
  else if 'A' ≤ c && c ≤ 'F' then some (c.toNat - 55)
  else none

/-- The number that hexadecimal digits give. -/
def hexadecimal? (digits : List Char) : Option Nat :=
  digits.foldlM (fun number c => (hexDigit? c).map (16 * number + ·)) 0

/-! ## Digits of any script -/

/-- The zeros of all scripts; the other decimal digits of a script follow its zero. -/
def zeros : List Nat := [
  0x30, 0x660, 0x6F0, 0x7C0, 0x966, 0x9E6, 0xA66, 0xAE6, 0xB66, 0xBE6, 0xC66, 0xCE6, 0xD66,
  0xDE6, 0xE50, 0xED0, 0xF20, 0x1040, 0x1090, 0x17E0, 0x1810, 0x1946, 0x19D0, 0x1A80, 0x1A90,
  0x1B50, 0x1BB0, 0x1C40, 0x1C50, 0xA620, 0xA8D0, 0xA900, 0xA9D0, 0xA9F0, 0xAA50, 0xABF0,
  0xFF10, 0x104A0, 0x10D30, 0x11066, 0x110F0, 0x11136, 0x111D0, 0x112F0, 0x11450, 0x114D0,
  0x11650, 0x116C0, 0x11730, 0x118E0, 0x11950, 0x11C50, 0x11D50, 0x11DA0, 0x16A60, 0x16AC0,
  0x16B50, 0x1D7CE, 0x1D7D8, 0x1D7E2, 0x1D7EC, 0x1D7F6, 0x1E140, 0x1E2F0, 0x1E950, 0x1FBF0]

/-- A decimal digit of any script in ASCII; another character as it is. -/
def asciiDigit (c : Char) : Char :=
  match zeros.find? fun start => start ≤ c.toNat && c.toNat < start + 10 with
  | some start => Char.ofNat (0x30 + (c.toNat - start))
  | none => c

/-- Whether a character counts as blank around a number in ASCII. -/
def isPad (c : Char) : Bool := c = ' ' || ('\t' ≤ c && c ≤ '\r')

/-- A number without the blanks around it, its decimal digits in ASCII. In ASCII alone fewer
characters are blank than elsewhere. -/
def numeral (text : List Char) : List Char :=
  if text.all (·.toNat < 0x80) then ((text.dropWhile isPad).reverse.dropWhile isPad).reverse
  else (strip text).map asciiDigit

end Bindery.Text

import Bindery.Format.Punycode
import Bindery.Loading.HostLabel
import Bindery.Text.Split

/-!
# Host names

Names of hosts in all scripts, and how they are written in ASCII: label by label, with a sign
before those that have other characters.
-/

namespace Bindery.Loading.HostName

open Bindery.Format Bindery.Text HostLabel

/-- What a label that is written in ASCII starts with if it has other characters. -/
def sign : List Char := "xn--".toList

/-- The most characters of a name in ASCII, without a dot at its end. -/
def maxLength : Nat := 253

/-- The most characters of a label in ASCII. -/
def maxLabelLength : Nat := 63

/-- Whether a character separates labels. -/
def isDot (c : Char) : Bool := c = '.' || c = '\u3002' || c = '\uff0e' || c = '\uff61'

/-- The labels of a name, and whether a dot stands at its end. -/
def labels (name : List Char) : List (List Char) × Bool :=
  let labels := split isDot name
  if labels.getLast? = some [] then (labels.dropLast, true) else (labels, false)

/-- The code points that a label in ASCII stands for. Its case does not matter. -/
def readLabel (label : List Char) : Except Flaw (List Nat) := do
  let label := label.map Char.toLower
  let codes ←
    if sign.isPrefixOf label then
      let written := label.drop sign.length
      if written.isEmpty then throw .nothingWritten
      if written.getLast? = some '-' then throw .finalHyphen
      match Punycode.decode? written with
      | some codes => pure codes
      | none => throw .unreadable
    else pure (label.map Char.toNat)
  check codes
  return codes

/-- A label in ASCII. -/
def writeLabel (label : List Char) : Except Flaw (List Char) := do
  let written ←
    if label.all (·.toNat < 0x80) then do
      let _ ← readLabel label
      pure label
    else do
      check (label.map Char.toNat)
      pure (sign ++ Punycode.encode label)
  if written.length > maxLabelLength then throw .longLabel
  return written

/-- A name in lower case, written in ASCII. -/
def encode (name : List Char) : Except Flaw (List Char) := do
  if name.length > maxLength + 1 then throw .longName
  let (labels, isEnded) := labels name
  let written := join '.' ((← labels.mapM writeLabel) ++ if isEnded then [[]] else [])
  if written.length > if isEnded then maxLength + 1 else maxLength then throw .longName
  return written

/-- The name that a name in ASCII stands for. -/
def decode (name : List Char) : Except Flaw (List Char) := do
  if name.length > maxLength + 1 then throw .longName
  let (labels, isEnded) := labels name
  let read ← labels.mapM readLabel
  return join '.' (read.map (·.map Char.ofNat) ++ if isEnded then [[]] else [])

end Bindery.Loading.HostName

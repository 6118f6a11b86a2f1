import Bindery.Text.Digits
import Bindery.Text.Split

/-!
# Numeric host addresses

Which texts are host addresses of the fourth and of the sixth version of the internet protocol.
-/

namespace Bindery.Loading

/-- Whether a text is a number below 256 without needless zeros. -/
def isOctet (text : List Char) : Bool :=
  ! text.isEmpty && text.length ≤ 3 && text.all Char.isDigit &&
    (text.length = 1 || text.head? ≠ some '0') && Text.decimal text ≤ 255

/-- Whether a text is a host address of four numbers. -/
def isIPv4 (text : List Char) : Bool :=
  let parts := Text.split (· = '.') text
  parts.length = 4 && parts.all isOctet

/-- Whether a text is a group of up to four hexadecimal digits. -/
def isHexGroup (text : List Char) : Bool :=
  ! text.isEmpty && text.length ≤ 4 && text.all fun c => (Text.hexDigit? c).isSome

/-- Groups of a host address in which an address of four numbers at the end counts as two. -/
def expandTail (groups : List (List Char)) : Option (List (List Char)) :=
  match groups.getLast? with
  | some last =>
    if last.contains '.' then
      if isIPv4 last then some (groups.dropLast ++ [['0'], ['0']]) else none
    else some groups
  | none => some groups

/-- Whether groups on one side of a run of left out zeros are as they should be: an empty group
stands only at the end of the address, and alone. -/
def isSide (groups : List (List Char)) : Bool := groups = [[]] || groups.all isHexGroup

/-- The groups on a side of a run of left out zeros that are written. -/
def written (groups : List (List Char)) : Nat := (groups.filter (! ·.isEmpty)).length

/-- Whether a text is a host address of eight groups, of which a run of zeros may be left out. -/
def isGrouped (text : List Char) : Bool :=
  let parts := Text.split (· = ':') text
  match expandTail parts with
  | none => false
  | some groups =>
    let inner := groups.tail.dropLast
    let gap := (inner.takeWhile (! ·.isEmpty)).length + 1
    if parts.length < 3 || groups.length > 9 || inner.count [] > 1 then false
    else if inner.contains [] then
      let before := groups.take gap
      let after := groups.drop (gap + 1)
      isSide before && isSide after && written before + written after < 8
    else groups.length = 8 && groups.all isHexGroup

/-- Whether a text is a host address of the sixth version, possibly with a zone. -/
def isIPv6 (text : List Char) : Bool :=
  let address := text.takeWhile (· ≠ '%')
  match text.drop address.length with
  | [] => isGrouped address
  | _ :: zone => ! zone.isEmpty && ! zone.contains '%' && isGrouped address

end Bindery.Loading

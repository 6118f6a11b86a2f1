import Bindery.Data.Moment
import Bindery.Text.Digits

/-!
# Timestamps of YAML

How points in time are written in YAML.
-/

namespace Bindery.Format.Yaml.Timestamp

open Bindery.Data

/-- A number of some digits at the start of a text, as many as possible, and what is left. -/
def digits? (least most : Nat) (text : List Char) : Option (List Char × List Char) :=
  let found := (text.take most).takeWhile Char.isDigit
  if found.length < least then none else some (found, text.drop found.length)

/-- What is left after a character that has to be there. -/
def after? (c : Char) : List Char → Option (List Char)
  | next :: rest => if next = c then some rest else none
  | [] => none

/-- Whether a character is a space or a tab. -/
def isGap (c : Char) : Bool := c = ' ' || c = '\t'

/-- What is left after the sign between a date and a time. -/
def afterSeparator? : List Char → Option (List Char)
  | c :: rest =>
    if c = 'T' || c = 't' then some rest
    else if isGap c then some (rest.dropWhile isGap)
    else none
  | [] => none

/-- The distance of a time zone after its sign, in minutes. -/
def distance? (text : List Char) : Option Int := do
  let (hours, rest) ← digits? 1 2 text
  match rest with
  | [] => return 60 * Text.decimal hours
  | ':' :: more =>
    let (minutes, last) ← digits? 2 2 more
    if last.isEmpty then return 60 * Text.decimal hours + Text.decimal minutes else none
  | _ => none

/-- The time zone that a text gives; a text that holds nothing gives none. -/
def zone? (text : List Char) : Option (Option Int) :=
  if text.isEmpty then some none
  else match text.dropWhile isGap with
    | ['Z'] => some (some 0)
    | '+' :: rest => (distance? rest).map some
    | '-' :: rest => (distance? rest).map fun minutes => some (-minutes)
    | _ => none

/-- The digits after a decimal point at the start of a text, and what is left. -/
def fraction : List Char → List Char × List Char
  | '.' :: rest => (rest.takeWhile Char.isDigit, rest.dropWhile Char.isDigit)
  | text => ([], text)

/-- The time of day that a text gives. -/
def clock? (text : List Char) : Option Clock := do
  let (hour, rest) ← digits? 1 2 text
  let (minute, rest) ← digits? 2 2 (← after? ':' rest)
  let (second, rest) ← digits? 2 2 (← after? ':' rest)
  let (fraction, rest) := fraction rest
  return ⟨Text.decimal hour, Text.decimal minute, Text.decimal second,
    Clock.microseconds fraction, ← zone? rest⟩

/-- The point in time that a text gives, and whether it has two digits for month and day. -/
def moment? (text : List Char) : Option (Moment × Bool) := do
  let (year, rest) ← digits? 4 4 text
  let (month, rest) ← digits? 1 2 (← after? '-' rest)
  let (day, rest) ← digits? 1 2 (← after? '-' rest)
  let clock ← if rest.isEmpty then some none else (clock? (← afterSeparator? rest)).map some
  return (⟨Text.decimal year, Text.decimal month, Text.decimal day, clock⟩,
    month.length = 2 && day.length = 2)

/-- Whether a text is taken for a point in time without being told: a date alone needs two
digits for month and day. -/
def isImplied (text : List Char) : Bool :=
  (moment? text).any fun (moment, padded) => moment.clock.isSome || padded

end Bindery.Format.Yaml.Timestamp

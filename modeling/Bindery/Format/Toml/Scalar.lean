import Bindery.Data.Value
import Bindery.Data.Moment
import Bindery.Format.Toml.Error
import Bindery.Text.Digits

/-!
# Numbers and times of TOML

Each reader takes the longest number or time at the start of a text, and leaves it to the caller
what may follow.
-/

namespace Bindery.Format.Toml

open Bindery.Data

/-! ## Numbers -/

/-- The digits at the start of a text; single underscores may separate them. What they take of the
text is given with them. -/
def digitRun (isDigit : Char → Bool) : List Char → List Char × Nat
  | [] => ([], 0)
  | c :: rest =>
    if isDigit c then
      let (digits, taken) := digitRun isDigit rest
      let (more, skipped) :=
        match rest with
        | '_' :: next :: after =>
          if isDigit next then
            let (digits, taken) := digitRun isDigit (next :: after)
            (digits, taken + 1)
          else ([], 0)
        | _ => (digits, taken)
      (c :: more, skipped + 1)
    else ([], 0)

/-- The value of digits in a base. -/
def valueIn (base : Nat) (digits : List Char) : Nat :=
  digits.foldl (fun number c => base * number + (Text.hexDigit? c).getD 0) 0

/-- The bases that have a mark, with the marks. -/
def bases : List (Char × Nat) := [('x', 16), ('b', 2), ('o', 8)]

/-- An integer after a zero and the mark of its base, and what it takes of a text. -/
def marked? : List Char → Option (Nat × Nat)
  | '0' :: mark :: rest => do
    let base ← bases.lookup mark
    let (digits, taken) := digitRun (fun c => (Text.hexDigit? c).any (· < base)) rest
    if taken = 0 then none else some (valueIn base digits, taken + 2)
  | _ => none

/-- The fraction at the start of a text with its point, and what it takes. -/
def fraction : List Char → List Char × Nat
  | '.' :: rest =>
    let (digits, taken) := digitRun Char.isDigit rest
    if taken = 0 then ([], 0) else (digits, taken + 1)
  | _ => ([], 0)

/-- Whether a sign is negative, and what it takes of a text. -/
def sign : List Char → Bool × Nat
  | '-' :: _ => (true, 1)
  | '+' :: _ => (false, 1)
  | _ => (false, 0)

/-- The exponent at the start of a text with its letter, and what it takes. -/
def exponent : List Char → Int × Nat
  | letter :: rest =>
    if letter = 'e' || letter = 'E' then
      let (negative, signed) := sign rest
      let (digits, taken) := digitRun Char.isDigit (rest.drop signed)
      let size : Int := Text.decimal digits
      if taken = 0 then (0, 0) else (if negative then -size else size, taken + signed + 1)
    else (0, 0)
  | [] => (0, 0)

/-- A decimal number at the start of a text, and what it takes. One with a fraction or an
exponent is real. -/
def decimal? (text : List Char) : Option (Except Unrepresentable Value × Nat) :=
  let (negative, signed) := sign text
  let unsigned := text.drop signed
  let (whole, wholeTaken) :=
    if unsigned.head? = some '0' then (['0'], 1) else digitRun Char.isDigit unsigned
  if wholeTaken = 0 then none
  else
    let afterWhole := unsigned.drop wholeTaken
    let (places, fractionTaken) := fraction afterWhole
    let (power, powerTaken) := exponent (afterWhole.drop fractionTaken)
    let taken := signed + wholeTaken + fractionTaken + powerTaken
    if fractionTaken + powerTaken = 0 then
      let size : Int := Text.decimal whole
      let value : Except Unrepresentable Value :=
        if whole.length > Text.maxDigits then .error (.hugeInteger whole.length)
        else .ok (.int (if negative then -size else size))
      some (value, taken)
    else
      let real := Double.ofDecimal negative (Text.decimal (whole ++ places)) (power - places.length)
      some (.ok (.real real), taken)

/-- The real numbers that have names. -/
def namedReals : List (String × Double) := [
  ("inf", .infinite false), ("nan", .nan), ("-inf", .infinite true), ("+inf", .infinite false),
  ("-nan", .nan), ("+nan", .nan)]

/-! ## Times -/

/-- A number of a width within bounds at the start of a text, and what is left. -/
def bounded? (width least most : Nat) (text : List Char) : Option (Nat × List Char) :=
  let digits := text.take width
  let number := Text.decimal digits
  if digits.length = width && digits.all Char.isDigit && least ≤ number && number ≤ most then
    some (number, text.drop width)
  else none

/-- What is left after a character that has to be there. -/
def after? (isExpected : Char → Bool) : List Char → Option (List Char)
  | c :: rest => if isExpected c then some rest else none
  | [] => none

/-- A time of day without a zone at the start of a text, and what is left. -/
def clock? (text : List Char) : Option (Clock × List Char) := do
  let (hour, rest) ← bounded? 2 0 23 text
  let (minute, rest) ← bounded? 2 0 59 (← after? (· = ':') rest)
  let (second, rest) ← bounded? 2 0 59 (← after? (· = ':') rest)
  match rest with
  | '.' :: more =>
    let digits := more.takeWhile Char.isDigit
    if digits.isEmpty then return (⟨hour, minute, second, 0, none⟩, rest)
    else return (⟨hour, minute, second, Clock.microseconds digits, none⟩, more.drop digits.length)
  | _ => return (⟨hour, minute, second, 0, none⟩, rest)

/-- The time zone at the start of a text, in minutes, and what is left. -/
def zone (text : List Char) : Option Int × List Char :=
  let distance (rest : List Char) : Option (Int × List Char) := do
    let (hours, rest) ← bounded? 2 0 23 rest
    let (minutes, rest) ← bounded? 2 0 59 (← after? (· = ':') rest)
    return (60 * hours + minutes, rest)
  match text with
  | 'Z' :: rest | 'z' :: rest => (some 0, rest)
  | '+' :: rest =>
    match distance rest with
    | some (minutes, left) => (some minutes, left)
    | none => (none, text)
  | '-' :: rest =>
    match distance rest with
    | some (minutes, left) => (some (-minutes), left)
    | none => (none, text)
  | _ => (none, text)

/-- A date at the start of a text, with the time of day if one follows, and what is left. -/
def moment? (text : List Char) : Option (Moment × List Char) := do
  let (year, rest) ← bounded? 4 0 9999 text
  let (month, rest) ← bounded? 2 1 12 (← after? (· = '-') rest)
  let (day, rest) ← bounded? 2 1 31 (← after? (· = '-') rest)
  match (after? (fun c => c = 'T' || c = 't' || c = ' ') rest).bind clock? with
  | some (clock, rest) =>
    let (distance, left) := zone rest
    return (⟨year, month, day, some { clock with zone := distance }⟩, left)
  | none => return (⟨year, month, day, none⟩, rest)

/-! ## Scalars -/

/-- A truth value, a time or a number at the start of a text. -/
def scalar (text : List Char) : Step Value text :=
  let finish (value : Value) (left : List Char) : Step Value text :=
    if shorter : left.length < text.length then .ok (value, ⟨left, shorter⟩)
    else .error (.flaw .invalidValue text.length)
  if "true".toList.isPrefixOf text then finish (.bool true) (text.drop 4)
  else if "false".toList.isPrefixOf text then finish (.bool false) (text.drop 5)
  else match moment? text, clock? text, marked? text, decimal? text with
    | some (moment, left), _, _, _ =>
      if moment.problem?.isSome then .error (.flaw .invalidDate text.length)
      else finish (.time moment) left
    | none, some (clock, left), _, _ => finish (.clock clock) left
    | none, none, some (number, taken), _ => finish (.int number) (text.drop taken)
    | none, none, none, some (.ok value, taken) => finish value (text.drop taken)
    | none, none, none, some (.error flaw, _) => .error (.unrepresentable flaw)
    | none, none, none, none =>
      match namedReals.find? fun (name, _) => name.toList.isPrefixOf text with
      | some (name, value) => finish (.real value) (text.drop name.length)
      | none => .error (.flaw .invalidValue text.length)

end Bindery.Format.Toml

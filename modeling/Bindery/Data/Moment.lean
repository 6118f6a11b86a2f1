/-!
# Points in time

A date, a time of day, or both, possibly with a time zone: whether it exists, when two of them are
the same, and how it is written as an expression.
-/

namespace Bindery.Data

/-- A time of day, with the distance of its zone from universal time in minutes. -/
structure Clock where
  hour : Nat
  minute : Nat
  second : Nat
  microsecond : Nat
  zone : Option Int
  deriving DecidableEq, Repr

/-- A date, possibly with a time of day. -/
structure Moment where
  year : Nat
  month : Nat
  day : Nat
  clock : Option Clock
  deriving DecidableEq, Repr

/-- What is wrong with a point in time. -/
inductive NoDate where
  | year (number : Nat)
  | month
  | day
  | hour
  | minute
  | second
  | offset (minutes : Int)
  deriving DecidableEq, Repr

/-! ## Lengths of time -/

/-- A length of time as an expression: days, and seconds that are never negative. -/
def duration (minutes : Int) : String :=
  let days := minutes.fdiv (24 * 60)
  let seconds := 60 * minutes.fmod (24 * 60)
  let shown := [("days", days), ("seconds", seconds)].filter fun (_, count) => count ≠ 0
  let parts := shown.map fun (unit, count) => unit ++ "=" ++ toString count
  "datetime.timedelta(" ++ (if parts.isEmpty then "0" else ", ".intercalate parts) ++ ")"

/-- The wording of what is wrong with a point in time. -/
def NoDate.message : NoDate → String
  | year number => "year " ++ toString number ++ " is out of range"
  | month => "month must be in 1..12"
  | day => "day is out of range for month"
  | hour => "hour must be in 0..23"
  | minute => "minute must be in 0..59"
  | second => "second must be in 0..59"
  | offset minutes =>
    "offset must be a timedelta strictly between -timedelta(hours=24) and timedelta(hours=24), " ++
      "not " ++ duration minutes ++ "."

namespace Clock

/-- The microseconds that the digits of a fraction of a second give; the seventh digit and those
after it count for nothing. -/
def microseconds (fraction : List Char) : Nat :=
  ((fraction ++ List.replicate 6 '0').take 6).foldl
    (fun number c => 10 * number + (c.toNat - 48)) 0

/-- The microseconds since midnight. -/
def sinceMidnight (clock : Clock) : Nat :=
  ((clock.hour * 60 + clock.minute) * 60 + clock.second) * 1000000 + clock.microsecond

/-- What is wrong with a time of day. -/
def problem? (clock : Clock) : Option NoDate :=
  if clock.hour > 23 then some .hour
  else if clock.minute > 59 then some .minute
  else if clock.second > 59 then some .second
  else none

/-- What is wrong with a time zone: it has to be less than a day away. -/
def zoneProblem? (clock : Clock) : Option NoDate :=
  clock.zone.bind fun minutes =>
    if minutes.natAbs ≥ 24 * 60 then some (.offset minutes) else none

/-- The parts of a time of day as arguments, seconds only where they count. -/
def arguments (clock : Clock) : List String :=
  let seconds :=
    if clock.microsecond ≠ 0 then [clock.second, clock.microsecond]
    else if clock.second ≠ 0 then [clock.second]
    else []
  ([clock.hour, clock.minute] ++ seconds).map toString

/-- A time zone as an argument. -/
def zoneArgument (minutes : Int) : String :=
  if minutes = 0 then "tzinfo=datetime.timezone.utc"
  else "tzinfo=datetime.timezone(" ++ duration minutes ++ ")"

end Clock

namespace Moment

/-! ## The calendar -/

/-- Whether a year has a leap day. -/
def isLeap (year : Nat) : Bool := year % 4 = 0 && (year % 100 ≠ 0 || year % 400 = 0)

/-- The number of days of a month. -/
def daysIn (year month : Nat) : Nat :=
  if month = 2 then (if isLeap year then 29 else 28)
  else if month ∈ [4, 6, 9, 11] then 30
  else 31

/-- The number of days before a date, counted from the first of the first year. -/
def daysBefore (moment : Moment) : Nat :=
  let years := moment.year - 1
  let months := (List.range (moment.month - 1)).foldl
    (fun days month => days + daysIn moment.year (month + 1)) 0
  365 * years + years / 4 - years / 100 + years / 400 + months + (moment.day - 1)

/-- What is wrong with a date. -/
def dateProblem? (moment : Moment) : Option NoDate :=
  if moment.year < 1 then some (.year moment.year)
  else if moment.month < 1 || moment.month > 12 then some .month
  else if moment.day < 1 || moment.day > daysIn moment.year moment.month then some .day
  else none

/-- What is wrong with a point in time. -/
def problem? (moment : Moment) : Option NoDate :=
  (moment.clock.bind Clock.zoneProblem?).or <|
    moment.dateProblem?.or (moment.clock.bind Clock.problem?)

/-! ## Comparison -/

/-- The microseconds of universal time, for a point in time whose zone is known. -/
def universal? (moment : Moment) : Option Int := do
  let clock ← moment.clock
  let minutes ← clock.zone
  return (moment.daysBefore : Int) * 86400000000 + clock.sinceMidnight - minutes * 60000000

/-- Whether two points in time are the same. With zones they are compared in universal time; a
date is never the same as a time of that date. -/
def same (first second : Moment) : Bool :=
  match first.universal?, second.universal? with
  | some instant, some other => instant = other
  | none, none => first = second
  | _, _ => false

/-! ## Expressions -/

/-- A point in time as an expression. -/
def expression (moment : Moment) : String :=
  let date := [moment.year, moment.month, moment.day].map toString
  match moment.clock with
  | none => "datetime.date(" ++ ", ".intercalate date ++ ")"
  | some clock =>
    let zone := (clock.zone.map Clock.zoneArgument).toList
    "datetime.datetime(" ++ ", ".intercalate (date ++ clock.arguments ++ zone) ++ ")"

end Moment

/-- A time of day as an expression. -/
def Clock.expression (clock : Clock) : String :=
  "datetime.time(" ++ ", ".intercalate clock.arguments ++ ")"

end Bindery.Data

import Bindery.Data.Double
import Bindery.Data.Moment

/-!
# Untyped data

A `Value` is what a JSON, YAML or TOML text holds before anything is required of it.  Maps keep
the order in which their keys first appear.
-/

namespace Bindery.Data

/-- A piece of untyped data. A collection that contains itself is a `loop` under a name; within
it, `again` stands for the whole loop of that name. -/
inductive Value where
  | null
  | bool (value : Bool)
  | int (value : Int)
  | real (value : Double)
  | text (value : String)
  | bytes (value : List UInt8)
  | time (moment : Moment)
  | clock (clock : Clock)
  | list (items : List Value)
  | set (items : List Value)
  | map (entries : List (Value × Value))
  | loop (name : Nat) (body : Value)
  | again (name : Nat)
  deriving Repr

namespace Value

instance : Inhabited Value := ⟨null⟩

/-- The whole number that a scalar equals; the truth values count as one and zero. -/
def number? : Value → Option Int
  | bool value => some (if value then 1 else 0)
  | int value => some value
  | real value => value.toInt?
  | _ => none

/-- Whether two values are the same key of a map. Numbers are compared by value, whatever their
kind, and a number that is undefined differs from itself. -/
def sameKey (first second : Value) : Bool :=
  match first.number?, second.number? with
  | some a, some b => a = b
  | some _, none | none, some _ => false
  | none, none =>
    match first, second with
    | null, null => true
    | real a, real b => a ≠ .nan && a = b
    | text a, text b => a = b
    | bytes a, bytes b => a = b
    | time a, time b => a.same b
    | clock a, clock b => a = b
    | _, _ => false

/-- Whether a value can be a key of a map or a member of a set. -/
def isKey : Value → Bool
  | list _ | set _ | map _ | loop .. | again _ => false
  | _ => true

/-! ## Loops -/

mutual

/-- A value in which another value takes the place of a loop that is met again. -/
def replace (name : Nat) (whole : Value) : Value → Value
  | list items => list (replaceAll name whole items)
  | set members => set (replaceAll name whole members)
  | map entries => map (replaceEntries name whole entries)
  | loop other body => if other = name then whole else loop other (replace name whole body)
  | again other => if other = name then whole else again other
  | scalar => scalar

/-- Several values in which another value takes the place of a loop. -/
def replaceAll (name : Nat) (whole : Value) : List Value → List Value
  | [] => []
  | first :: more => replace name whole first :: replaceAll name whole more

/-- Entries in which another value takes the place of a loop. -/
def replaceEntries (name : Nat) (whole : Value) : List (Value × Value) → List (Value × Value)
  | [] => []
  | (key, value) :: more =>
    (replace name whole key, replace name whole value) :: replaceEntries name whole more

end

/-- A value that is no loop: the parts of a loop contain it as a whole. -/
def unroll : Value → Value
  | loop name body => replace name (loop name body) body
  | value => value

/-- The name of a loop. -/
def loopName? : Value → Option Nat
  | loop name _ => some name
  | _ => none

/-- The items of a list or a set. -/
def items? (value : Value) : Option (List Value) :=
  match value.unroll with
  | list items | set items => some items
  | _ => none

/-- The entries of a map. -/
def entries? (value : Value) : Option (List (Value × Value)) :=
  match value.unroll with
  | map entries => some entries
  | _ => none

/-! ## Maps -/

/-- The entries of a map after a key was given a value: an entry of that key takes the value and
keeps its place. -/
def insert (entries : List (Value × Value)) (key value : Value) : List (Value × Value) :=
  match entries with
  | [] => [(key, value)]
  | (other, held) :: rest =>
    if other.sameKey key then (other, value) :: rest else (other, held) :: insert rest key value

/-- The entries of a map after several keys were given values in order. -/
def insertAll (entries additions : List (Value × Value)) : List (Value × Value) :=
  additions.foldl (fun held (key, value) => insert held key value) entries

/-- What a map holds under a text. -/
def find? (entries : List (Value × Value)) (name : String) : Option Value :=
  (entries.find? fun (key, _) => key.sameKey (.text name)).map (·.2)

end Value

end Bindery.Data

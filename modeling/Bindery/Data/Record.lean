import Bindery.Code.Literal
import Bindery.Data.Checked
import Bindery.Data.Utf8
import Bindery.Data.Value
import Bindery.Text.Digits

/-!
# Checking untyped data

Readers for scalars, lists and maps, and for records whose keys have two spellings each.  A
reader is lenient where no meaning is lost: `1` and `yes` are truth values, and a whole real
number is an integer.
-/

namespace Bindery.Data

namespace Value

/-- A scalar as an expression, but a text as it is: how a key is named in an issue. -/
def keyText : Value → String
  | null => "None"
  | bool value => if value then "True" else "False"
  | int value =>
    if value.natAbs < Nat.pow 10 Text.maxDigits then toString value
    else "<unprintable int object>"
  | real value => value.shortest
  | text value => value
  | bytes value => Code.Literal.quotedBytes value
  | time moment => moment.expression
  | clock shown => shown.expression
  | list _ | set _ | map _ | loop .. | again _ => ""

end Value

namespace Checked

open Value

variable {α : Type}

/-- A text; bytes are taken as UTF-8. -/
def text : Value → Checked String
  | .text value => valid value
  | .bytes value =>
    match Utf8.decode value with
    | .ok chars => valid (String.ofList chars)
    | .error _ => fail .notUnicode
  | _ => fail .notText

/-- The truth value that a word stands for, in any case. -/
def boolWord? (word : String) : Option Bool :=
  let folded := String.ofList (word.toList.map Char.toLower)
  if folded ∈ ["0", "off", "f", "false", "n", "no"] then some false
  else if folded ∈ ["1", "on", "t", "true", "y", "yes"] then some true
  else none

/-- The first integer that is too large for 64 bits. -/
def wordBound : Int := 0x8000000000000000

/-- Whether an integer fits into 64 bits. -/
def fitsWord (n : Int) : Bool := -wordBound ≤ n && n < wordBound

/-- A truth value. -/
def bool : Value → Checked Bool
  | .bool value => valid value
  | .int value =>
    if value = 0 then valid false
    else if value = 1 then valid true
    else if fitsWord value then fail .unclearBool
    else fail .notBool
  | .real value =>
    match value.toInt? with
    | some 0 => valid false
    | some 1 => valid true
    | _ => fail .notBool
  | .text word =>
    match boolWord? word with
    | some value => valid value
    | none => fail .unclearBool
  | .bytes value =>
    match (Utf8.decode value).toOption.bind (boolWord? ∘ String.ofList) with
    | some value => valid value
    | none => fail .unclearBool
  | _ => fail .notBool

/-- An integer, where a text was no option. -/
def integer : Value → Checked Int
  | .int value => valid value
  | .bool value => valid (if value then 1 else 0)
  | .real value =>
    if ! value.isFinite then fail .notFinite
    else match value.toInt? with
      | none => fail .fractionalInteger
      | some whole =>
        if -wordBound < whole && whole < wordBound then valid whole else fail .integerTooLarge
  | .bytes _ => fail .unclearInteger
  | _ => fail .notInteger

/-- One of several choices by its label. -/
def choice (choices : List α) (label : α → String) (value : Value) : Checked α :=
  let found :=
    match text value with
    | .valid word => choices.find? (label · = word)
    | .invalid _ => none
  match found with
  | some choice => valid choice
  | none => fail (.notOneOf (choices.map label))

/-- Nothing, or what a reader reads. -/
def optional (read : Value → Checked α) : Value → Checked (Option α)
  | .null => valid none
  | value => map some (read value)

/-- The items of a list, each under its index. -/
def each (read : Value → Checked α) (items : List Value) : Checked (List α) :=
  all (items.mapIdx fun index item => (read item).under (toString index))

/-- A list or a set of what a reader reads, where a tuple is asked for. -/
def tuple (read : Value → Checked α) (value : Value) : Checked (List α) :=
  match value.items? with
  | some items => each read items
  | none => fail .notTuple

/-- A list or a set of what a reader reads, where a list is asked for. -/
def list (read : Value → Checked α) (value : Value) : Checked (List α) :=
  match value.items? with
  | some items => each read items
  | none => fail .notList

end Checked

/-! ## Records -/

/-- A key of a record: the name it is known by, and another name it may be written as. -/
structure Key where
  name : String
  spelling : String
  deriving DecidableEq, Repr

namespace Key

/-- A key with one spelling. -/
def plain (name : String) : Key := ⟨name, name⟩

/-- What a record holds for a key, and the name that it is written under. The name that the key
is known by goes before the other. -/
def find? (key : Key) (entries : List (Value × Value)) : Option (String × Value) :=
  match Value.find? entries key.name with
  | some found => some (key.name, found)
  | none => (Value.find? entries key.spelling).map (key.spelling, ·)

/-- The value of a key by a reader, or the outcome for a key that is absent. -/
def read {α : Type} (key : Key) (entries : List (Value × Value)) (absent : Checked α)
    (reader : Value → Checked α) : Checked α :=
  match key.find? entries with
  | some (name, value) => (reader value).under name
  | none => absent

/-- The value of a key that has to be there. -/
def required {α : Type} (key : Key) (entries : List (Value × Value))
    (reader : Value → Checked α) : Checked α :=
  key.read entries ((Checked.fail .missing).under key.name) reader

/-- The value of a key that may be absent. -/
def optional {α : Type} (key : Key) (entries : List (Value × Value)) (default : α)
    (reader : Value → Checked α) : Checked α :=
  key.read entries (.valid default) reader

/-- The names that keys are written under in a record. -/
def used (keys : List Key) (entries : List (Value × Value)) : List String :=
  keys.filterMap fun key => (key.find? entries).map (·.1)

/-- The check that a record holds nothing but its keys. -/
def nothingElse (keys : List Key) (entries : List (Value × Value)) : Checked Unit :=
  let issues := entries.filterMap fun (key, _) =>
    match key with
    | .text name =>
      if name ∈ used keys entries then none else some ⟨[name], .unexpected⟩
    | other => some ⟨[other.keyText], .keyNotText⟩
  if issues.isEmpty then .valid () else .invalid issues

/-- The check that the keys of a record are texts, where it may hold more than its keys. -/
def textKeys (entries : List (Value × Value)) : Checked Unit :=
  let issues := entries.filterMap fun (key, _) =>
    match key with
    | .text _ => none
    | other => some ⟨[other.keyText], .keyNotText⟩
  if issues.isEmpty then .valid () else .invalid issues

end Key

/-- A record, by a reader of its entries. -/
def Checked.record {α : Type} (name : String) (reader : List (Value × Value) → Checked α)
    (value : Value) : Checked α :=
  match value.entries? with
  | some entries => reader entries
  | none => .fail (.notModel name)

/-- The entries of a map from texts to what a reader reads, each under its key. Of several keys
that are the same text the last counts. -/
def Checked.dictionary {α : Type} (reader : Value → Checked α) (value : Value) :
    Checked (List (String × α)) :=
  match value.entries? with
  | none => .fail .notMap
  | some entries =>
    let read := entries.map fun (key, value) =>
      let name : Checked String := ((Checked.text key).under "[key]").under key.keyText
      Prod.mk <$> name <*> (reader value).under key.keyText
    (Checked.all read).map fun held => held.foldl (fun found (key, value) => put found key value) []
where
  put (held : List (String × α)) (key : String) (value : α) : List (String × α) :=
    match held with
    | [] => [(key, value)]
    | (other, old) :: more =>
      if other = key then (other, value) :: more else (other, old) :: put more key value

end Bindery.Data

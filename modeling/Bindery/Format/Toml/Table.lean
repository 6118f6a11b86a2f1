import Bindery.Data.Value
import Bindery.Format.Toml.Error

/-!
# Tables of TOML

The entries that statements add up to, and what later statements may still do to them: what is
written inline stays as it is, and a table is declared once.
-/

namespace Bindery.Format.Toml

open Bindery.Data

/-- The entries of a table. -/
abbrev Entries := List (Value × Value)

/-- The entries with those of a table within changed, which is made if it is not there. A list of
tables stands for its last one, where lists are followed. Nothing comes of it if something else
stands in the way. -/
def within (followLists : Bool) (change : Entries → Option Entries) :
    Path → Entries → Option Entries
  | [], entries => change entries
  | name :: more, entries =>
    match Value.find? entries name with
    | none => (within followLists change more []).map fun inner =>
        Value.insert entries (.text name) (.map inner)
    | some (.map held) => (within followLists change more held).map fun inner =>
        Value.insert entries (.text name) (.map inner)
    | some (.list items) =>
      match followLists, items.getLast? with
      | true, some (.map held) => (within followLists change more held).map fun inner =>
          Value.insert entries (.text name) (.list (items.dropLast ++ [.map inner]))
      | _, _ => none
    | some _ => none

/-- The entries with a new one; there must be none of its name. -/
def addEntry (name : String) (value : Value) (entries : Entries) : Option Entries :=
  match Value.find? entries name with
  | none => some (Value.insert entries (.text name) value)
  | some _ => none

/-- The entries with an empty table added to the list of a name, which is made if it is not
there. -/
def addToList (name : String) (entries : Entries) : Option Entries :=
  match Value.find? entries name with
  | none => some (Value.insert entries (.text name) (.list [.map []]))
  | some (.list items) => some (Value.insert entries (.text name) (.list (items ++ [.map []])))
  | some _ => none

/-- Whether a value is a table or a list. -/
def isNest : Value → Bool
  | .map _ | .list _ => true
  | _ => false

/-- What is known while statements are read: the entries so far; the paths of what cannot change
any more, with all within; the paths of tables that are declared; and those of tables that will
count as declared when the next header comes. -/
structure Tables where
  entries : Entries := []
  frozen : List Path := []
  declared : List Path := []
  pending : List Path := []

namespace Tables

/-- Whether a path leads to or into something that cannot change any more. -/
def isFrozen (tables : Tables) (path : Path) : Bool := tables.frozen.any (·.isPrefixOf path)

/-- Whether a path leads to a table that is declared. -/
def isDeclared (tables : Tables) (path : Path) : Bool := tables.declared.contains path

/-- Begins a header: the tables that waited count as declared. -/
def settle (tables : Tables) : Tables :=
  { tables with declared := tables.pending ++ tables.declared, pending := [] }

/-- Declares a table. -/
def declareTable (tables : Tables) (path : Path) : Except Flaw Tables :=
  if tables.isDeclared path || tables.isFrozen path then .error (.declaredTwice path)
  else
    match within true some path tables.entries with
    | none => .error .overwritten
    | some entries => .ok { tables with entries := entries, declared := path :: tables.declared }

/-- Adds a table to a list of tables. What was known of the last table of the list does not count
for the new one. -/
def declareItem (tables : Tables) (path : Path) : Except Flaw Tables :=
  if tables.isFrozen path then .error (.immutable path)
  else
    match within true (addToList (path.getLast?.getD "")) path.dropLast tables.entries with
    | none => .error .overwritten
    | some entries =>
      let isOutside (other : Path) : Bool := ! path.isPrefixOf other
      .ok { tables with
        entries := entries
        frozen := tables.frozen.filter isOutside
        declared := path :: tables.declared.filter isOutside }

/-- The paths to the tables that a key goes through, seen from the header that it stands under. -/
def through (header key : Path) : List Path :=
  (List.range (key.length - 1)).map fun count => header ++ key.take (count + 1)

/-- Gives a key under a header its value. -/
def assign (tables : Tables) (header key : Path) (value : Value) : Except Flaw Tables :=
  match (through header key).find? tables.isDeclared with
  | some path => .error (.redefined path)
  | none =>
    let parent := header ++ key.dropLast
    if tables.isFrozen parent then .error (.immutable parent)
    else
      match within true (addEntry (key.getLast?.getD "") value) parent tables.entries with
      | none => .error .overwritten
      | some entries =>
        .ok { tables with
          entries := entries
          frozen := if isNest value then (header ++ key) :: tables.frozen else tables.frozen
          pending := through header key ++ tables.pending }

end Tables

/-- What is known while an inline table is read: its entries and the paths within it of what
cannot change any more. -/
structure InlineTable where
  entries : Entries := []
  frozen : List Path := []

/-- Gives a key of an inline table its value. -/
def InlineTable.assign (table : InlineTable) (key : Path) (value : Value) :
    Except Flaw InlineTable :=
  if table.frozen.any (·.isPrefixOf key) then .error (.immutable key)
  else
    match within false some key.dropLast table.entries with
    | none => .error .overwritten
    | some _ =>
      let name := key.getLast?.getD ""
      match within false (addEntry name value) key.dropLast table.entries with
      | none => .error (.duplicateKey name)
      | some entries =>
        .ok ⟨entries, if isNest value then key :: table.frozen else table.frozen⟩

end Bindery.Format.Toml

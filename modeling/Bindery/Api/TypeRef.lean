import Bindery.Text.Blank

/-!
# Declared types

A `TypeRef` is a type as an API description declares it, in the vocabulary of JSON schema.  A
description may fill in any combination of the fields; which of them decide is a matter of the
type mapping.
-/

namespace Bindery.Api

open Text (filled)

/-- A value of an enumeration. -/
inductive EnumValue where
  | text (value : String)
  | int (value : Int)
  deriving Repr, DecidableEq

/-- A declared type. `ref` points to a schema of the description; a declaration without any
field means any value. -/
structure TypeRef where
  type : Option String := none
  format : Option String := none
  items : Option TypeRef := none
  additionalProperties : Option TypeRef := none
  ref : Option String := none
  enum : Option (List EnumValue) := none
  nullable : Bool := false
  deriving Repr

namespace TypeRef

instance : Inhabited TypeRef := ⟨{}⟩

/-- A short rendering of a declared type for messages. -/
def describe : TypeRef → String
  | ⟨type, format, items, _, ref, _, _⟩ =>
    match filled ref with
    | some target => "$ref '" ++ target ++ "'"
    | none =>
      if type = some "array" then
        "array<" ++ (match items with
          | some inner => inner.describe
          | none => "?") ++ ">"
      else
        match filled type, filled format with
        | some name, some detail => name ++ "(" ++ detail ++ ")"
        | some name, none => name
        | none, _ => "any"

end TypeRef

end Bindery.Api

import Bindery.Api.Document
import Bindery.Data.Record

/-!
# Reading API descriptions

`Document.read` checks untyped data and makes an API description of it.  Keys may be written in
camel case or with underscores; a record holds nothing but its keys.
-/

namespace Bindery.Api

open Bindery.Data

/-- A value of an enumeration: a text, or else an integer. -/
def EnumValue.read (value : Value) : Checked EnumValue :=
  match Checked.text value, Checked.integer value with
  | .valid chars, _ => .valid (.text chars)
  | _, .valid number => .valid (.int number)
  | .invalid noText, .invalid noInteger =>
    .invalid (noText.map (·.under "str") ++ noInteger.map (·.under "int"))

namespace TypeRef

/-- The keys of a declared type. -/
def keys : List Key := [
  .plain "type", .plain "format", .plain "items",
  ⟨"additionalProperties", "additional_properties"⟩, ⟨"$ref", "ref"⟩, .plain "enum",
  .plain "nullable"]

/-- How many declared types may be nested. -/
def maxDepth : Nat := 255

/-- Reads a declared type, given how many may be nested here and the loops around it. A loop that
is met again within itself has no end. -/
def readWithin (depth : Nat) (around : List Nat) (value : Value) : Checked TypeRef :=
  match depth, value with
  | 0, _ => .fail .tooDeep
  | depth + 1, value =>
    let name := value.loopName?
    if name.any around.contains then .fail .cyclic
    else
      let nested (key : Key) (entries : List (Value × Value)) : Checked (Option TypeRef) :=
        key.optional entries none
          (Checked.optional (readWithin depth (name.toList ++ around)))
      let text (key : Key) (entries : List (Value × Value)) : Checked (Option String) :=
        key.optional entries none (Checked.optional Checked.text)
      value |> Checked.record "TypeRef" fun entries =>
        TypeRef.mk
          <$> text (.plain "type") entries
          <*> text (.plain "format") entries
          <*> nested (.plain "items") entries
          <*> nested ⟨"additionalProperties", "additional_properties"⟩ entries
          <*> text ⟨"$ref", "ref"⟩ entries
          <*> (Key.plain "enum").optional entries none
            (Checked.optional (Checked.tuple EnumValue.read))
          <*> (Key.plain "nullable").optional entries false Checked.bool
          <* Key.nothingElse keys entries

/-- Reads a declared type. -/
def read : Value → Checked TypeRef := readWithin maxDepth []

end TypeRef

namespace Parameter

/-- The keys of a parameter. -/
def keys : List Key := [
  .plain "name", ⟨"in", "location"⟩, .plain "required", .plain "type",
  ⟨"collectionFormat", "collection_format"⟩, .plain "description"]

/-- Reads a parameter. -/
def read : Value → Checked Parameter :=
  Checked.record "Parameter" fun entries =>
    Parameter.mk
      <$> (Key.plain "name").required entries Checked.text
      <*> Key.required ⟨"in", "location"⟩ entries (Checked.choice Location.all Location.label)
      <*> (Key.plain "required").optional entries false Checked.bool
      <*> (Key.plain "type").optional entries {} TypeRef.read
      <*> Key.optional ⟨"collectionFormat", "collection_format"⟩ entries none
        (Checked.optional (Checked.choice CollectionFormat.all CollectionFormat.label))
      <*> (Key.plain "description").optional entries none (Checked.optional Checked.text)
      <* Key.nothingElse keys entries

end Parameter

namespace Operation

/-- The keys of an operation. -/
def keys : List Key := [
  .plain "name", .plain "method", .plain "path", .plain "parameters",
  ⟨"returnType", "return_type"⟩, ⟨"errorType", "error_type"⟩, .plain "description"]

/-- Reads an operation. -/
def read : Value → Checked Operation :=
  Checked.record "Operation" fun entries =>
    Operation.mk
      <$> (Key.plain "name").required entries Checked.text
      <*> (Key.plain "method").optional entries "get" Checked.text
      <*> (Key.plain "path").optional entries "/" Checked.text
      <*> (Key.plain "parameters").optional entries [] (Checked.tuple Parameter.read)
      <*> Key.optional ⟨"returnType", "return_type"⟩ entries none
        (Checked.optional TypeRef.read)
      <*> Key.optional ⟨"errorType", "error_type"⟩ entries none (Checked.optional TypeRef.read)
      <*> (Key.plain "description").optional entries none (Checked.optional Checked.text)
      <* Key.nothingElse keys entries

end Operation

namespace Schema

/-- The keys of a schema. -/
def keys : List Key := [.plain "description", .plain "properties", .plain "required"]

/-- Reads a schema. -/
def read : Value → Checked Schema :=
  Checked.record "SchemaDefinition" fun entries =>
    Schema.mk
      <$> (Key.plain "description").optional entries none (Checked.optional Checked.text)
      <*> (Key.plain "properties").optional entries [] (Checked.dictionary TypeRef.read)
      <*> (Key.plain "required").optional entries [] (Checked.tuple Checked.text)
      <* Key.nothingElse keys entries

end Schema

namespace Document

/-- The keys of an API description. -/
def keys : List Key := [
  .plain "title", ⟨"baseUrl", "base_url"⟩, .plain "schemas", .plain "operations"]

/-- Reads an API description. -/
def read : Value → Checked Document :=
  Checked.record "OperationDocument" fun entries =>
    Document.mk
      <$> (Key.plain "title").optional entries "API" Checked.text
      <*> Key.optional ⟨"baseUrl", "base_url"⟩ entries none (Checked.optional Checked.text)
      <*> (Key.plain "schemas").optional entries [] (Checked.dictionary Schema.read)
      <*> (Key.plain "operations").optional entries [] (Checked.tuple Operation.read)
      <* Key.nothingElse keys entries

end Document

end Bindery.Api

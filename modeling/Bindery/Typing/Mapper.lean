import Bindery.Api.Document
import Bindery.Fault
import Bindery.Naming.Identifier
import Bindery.Typing.Mapped

/-!
# From declared types to annotations

`Models.map` is the only rule by which a declared type becomes an annotation; fields of models,
arguments and options all use it.  A reference goes before an enumeration, an enumeration before
a type name, and what they pass over is not looked at.
-/

namespace Bindery.Typing

open Bindery.Api Bindery.Code

/-- Why a declared type has no annotation. -/
inductive Reason where
  | arrayWithoutItems | unknownSchema | unsupportedType
  deriving DecidableEq, Repr

/-- The wording of a reason. -/
def Reason.message : Reason → String
  | arrayWithoutItems => "array without items"
  | unknownSchema => "unknown schema"
  | unsupportedType => "unsupported type"

/-- A declared type without an annotation, as messages describe it, and why. -/
structure Unmappable where
  type : String
  reason : Reason
  deriving DecidableEq, Repr

/-- What is reported about a declared type when it is not known where it is declared. -/
def Unmappable.fault (cause : Unmappable) : Fault :=
  .unmappableType cause.type cause.reason.message none none

/-! ## Scalars -/

/-- The scalar types of emitted code. -/
inductive Primitive where
  | text | timestamp | date | uuid | bytes | integer | number | boolean
  deriving DecidableEq, Repr

namespace Primitive

/-- Every scalar type. -/
def all : List Primitive := [text, timestamp, date, uuid, bytes, integer, number, boolean]

/-- The scalar type of a declared type name and format; a format that is not known does not
matter. -/
def find? (type : String) (format : Option String) : Option Primitive :=
  match type with
  | "string" =>
    match format with
    | some "date-time" => some timestamp
    | some "date" => some date
    | some "uuid" => some uuid
    | some "binary" | some "byte" => some bytes
    | _ => some text
  | "integer" => some integer
  | "number" => some number
  | "boolean" => some boolean
  | _ => none

/-- The name of a scalar type in emitted code. -/
def name : Primitive → String
  | text => "str"
  | timestamp => "datetime"
  | date => "date"
  | uuid => "UUID"
  | bytes => "bytes"
  | integer => "int"
  | number => "float"
  | boolean => "bool"

/-- The module that a scalar type is imported from, unless it is always there. -/
def module? : Primitive → Option String
  | timestamp | date => some "datetime"
  | uuid => some "uuid"
  | _ => none

/-- A scalar type as an annotation. -/
def mapped (primitive : Primitive) : Mapped where
  expr := .name primitive.name
  imports :=
    match primitive.module? with
    | some module => .from_ module [primitive.name]
    | none => {}
  isText := primitive = text

end Primitive

/-- Names of annotations that are always there. -/
def annotationBuiltins : List String :=
  (Primitive.all.filter (·.module?.isNone)).map (·.name) ++ ["dict", "list"]

/-- Names of annotations that are imported. -/
def annotationImports : List String :=
  (Primitive.all.filter (·.module?.isSome)).map (·.name) ++ ["Any", "Literal"]

/-! ## Annotations that are put together -/

namespace Mapped

/-- The type of any value. -/
def any : Mapped where
  expr := .name "Any"
  imports := .from_ "typing" ["Any"]

/-- The type of one of several values. -/
def literal (values : List EnumValue) : Mapped where
  expr :=
    let shown := values.map fun
      | .text value => Expr.text value
      | .int value => Expr.int value
    .subscript (.name "Literal") <|
      match shown with
      | [only] => only
      | several => .tuple several
  imports := .from_ "typing" ["Literal"]

/-- The type of lists of a type. -/
def listOf (inner : Mapped) : Mapped where
  expr := .subscript (.name "list") inner.expr
  imports := inner.imports
  models := inner.models

/-- The type of maps from texts to a type. -/
def dictOf (inner : Mapped) : Mapped where
  expr := .subscript (.name "dict") (.tuple [.name "str", inner.expr])
  imports := inner.imports
  models := inner.models

/-- The type of the values of a model class. -/
def model (className : String) : Mapped where
  expr := .name className
  models := [className]

end Mapped

/-! ## The mapping -/

/-- The model classes of a description: the schemas with the names of their classes. -/
structure Models where
  classes : List (String × String)
  deriving Repr, DecidableEq

namespace Models

/-- The model classes of schemas. -/
def ofSchemas (names : List String) : Models :=
  ⟨names.map fun name => (name, Naming.className name)⟩

/-- The model classes of a description. -/
def ofDocument (document : Document) : Models := ofSchemas document.schemaNames

/-- The names of the model classes; several schemas may share one. -/
def classNames (models : Models) : List String := models.classes.map (·.2)

/-- The name of the model class of a schema. -/
def className? (models : Models) (schema : String) : Option String := models.classes.lookup schema

/-- The schema that a reference names: what follows its last slash. -/
def target (ref : String) : String :=
  String.ofList (ref.toList.reverse.takeWhile (· ≠ '/')).reverse

/-- The annotation of a declared type. -/
def map (models : Models) : TypeRef → Except Unmappable Mapped
  | ⟨type, format, items, additionalProperties, ref, enum, nullable⟩ =>
    let failure (reason : Reason) : Except Unmappable Mapped :=
      let declared : TypeRef := ⟨type, format, items, additionalProperties, ref, enum, nullable⟩
      .error ⟨declared.describe, reason⟩
    let mapped : Except Unmappable Mapped :=
      match ref with
      | some ref =>
        match models.className? (target ref) with
        | some className => .ok (.model className)
        | none => failure .unknownSchema
      | none =>
        match enum with
        | some (value :: values) => .ok (.literal (value :: values))
        | _ =>
          match type with
          | none => .ok .any
          | some "array" =>
            match items with
            | none => failure .arrayWithoutItems
            | some inner => (models.map inner).map .listOf
          | some "object" =>
            match additionalProperties with
            | none => .ok (.dictOf .any)
            | some inner => (models.map inner).map .dictOf
          | some name =>
            match Primitive.find? name format with
            | some primitive => .ok primitive.mapped
            | none => failure .unsupportedType
    mapped.map fun type => if nullable then type.optional else type

end Models

end Bindery.Typing

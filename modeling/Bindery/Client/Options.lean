import Bindery.Plan.OperationPlan
import Bindery.Text.Blank

/-!
# Classes of options and of their builders

The two classes that an operation with gathered parameters gets.  The options class is a model
with one optional field for each parameter.  The builder class has a method for each field and
hands the value over once.
-/

namespace Bindery.Client

open Bindery.Code Bindery.Plan

/-- A text as the documentation of a class or a function. -/
def documented (text : String) : String := String.ofList (Text.dedent text.toList)

/-- Lines as one text. -/
def textOfLines (lines : List String) : String := "\n".intercalate lines

/-- A class together with what it imports. -/
structure ClassCode where
  definition : ClassDefinition
  imports : Imports
  deriving Repr

/-! ## Options -/

/-- The documentation of an options class. -/
def optionsDocumentation (options : Options) : String :=
  let required := (options.fields.filter (·.parameter.required)).map (·.name)
  textOfLines <|
    ["Parameters of ``" ++ options.operation ++ "``.", ""] ++
    (if required.isEmpty then []
      else ["Required when calling the operation: " ++ ", ".intercalate required ++ "."]) ++
    ["Build instances with ``" ++ options.name ++ ".builder()``."]

/-- The description of a field that is worth keeping. -/
def fieldDescription? (field : Field) : Option String :=
  Text.filled field.parameter.description

/-- The declaration of a field. It may be left out. -/
def fieldStatement (field : Field) : Statement :=
  let value : Expr :=
    match fieldDescription? field with
    | some description =>
      .call (.name "Field") [] [("default", .none), ("description", .text description)]
    | none => .none
  .declare field.name field.optionalType.expr value

/-- What the declaration of a field imports. -/
def fieldImports (field : Field) : Imports :=
  field.optionalType.imports ++
    (if (fieldDescription? field).isSome then .from_ "pydantic" ["Field"] else {})

/-- The class method that starts a builder. -/
def builderMethod (builder : String) : Function where
  name := "builder"
  isAsync := false
  decorators := [.name "classmethod"]
  arguments := ⟨[⟨"cls", none⟩], []⟩
  returns := some (.text builder)
  documentation := none
  body := [.result (.call (.name builder) [] [])]

/-- The class of an options type. -/
def optionsClass (options : Options) (builder : Builder) : ClassCode where
  definition := {
    name := options.name
    bases := [.name "BaseModel"]
    documentation := some (documented (optionsDocumentation options))
    body :=
      .statement (.assign (.name "model_config")
        (.call (.name "ConfigDict") [] [("validate_assignment", .true)])) ::
      options.fields.map (fun field => .statement (fieldStatement field)) ++
      [.method (builderMethod builder.name)] }
  imports :=
    .from_ "pydantic" ["BaseModel", "ConfigDict"] ++ .all (options.fields.map fieldImports)

/-! ## Builders -/

/-- A method without a body of its own yet: it takes itself and further arguments. -/
def method (name : String) (arguments : List Argument) (returns : Expr)
    (body : List Statement) : Member :=
  .method {
    name := name
    isAsync := false
    decorators := []
    arguments := ⟨⟨"self", none⟩ :: arguments, []⟩
    returns := some returns
    documentation := none
    body := body }

/-- The call of a method of the object itself. -/
def selfCall (name : String) : Expr := .call (.field (.name "self") name) [] []

/-- The annotation of the value that a setter takes. -/
def setterTypeExpr (setter : Setter) : Expr :=
  if setter.converts then .name "object" else setter.field.type.expr

/-- The value that a setter stores. -/
def setterValue (setter : Setter) : Expr :=
  if setter.converts then
    .conditional (.call (.name "str") [.name "value"] []) (.isNot (.name "value") .none) .none
  else .name "value"

/-- The method that sets a field and returns the builder. -/
def setterMethod (builder : String) (setter : Setter) : Member :=
  method setter.name [⟨"value", some (setterTypeExpr setter)⟩] (.text builder) [
    .assign (.field (selfCall "_current") setter.field.name) (setterValue setter),
    .result (.name "self")]

/-- The class of a builder. -/
def builderClass (builder : Builder) : ClassCode where
  definition := {
    name := builder.name
    bases := [.subscript (.name "OptionsBuilder") (.name builder.target.name)]
    documentation := some <| documented <|
      "Fluent builder for ``" ++ builder.target.name ++ "``; ``build()`` may be called once."
    body :=
      .statement (.assign (.name "__slots__") (.tuple [])) ::
      method "__init__" [] .none [
        .evaluate (.call (.field (.call (.name "super") [] []) "__init__")
          [.call (.name builder.target.name) [] []] [])] ::
      builder.setters.map (setterMethod builder.name) ++
      [method "build" [] (.name builder.target.name) [.result (selfCall "_finish")]] }
  imports :=
    .from_ "._runtime" ["OptionsBuilder"] ++
    .all ((builder.setters.filter (! ·.converts)).map (·.field.type.imports))

end Bindery.Client

import Bindery.Client.Options

/-!
# The models module

Every schema of a description becomes a model class.  A field keeps the name of its property on
the wire as an alias, and may be left out unless the schema requires it.  The classes may refer
to each other in any order.
-/

namespace Bindery.Client

open Bindery.Api Bindery.Code Bindery.Plan Bindery.Typing

/-- Why the models module could not be written. -/
inductive ModelError where
  | unmappable (cause : Unmappable) (schema property : String)
  | emptyName (cause : Naming.EmptyName)
  deriving DecidableEq, Repr

/-- What is reported about models that could not be written. -/
def ModelError.fault? : ModelError → Option Fault
  | unmappable ⟨type, reason⟩ schema property =>
    some (.unmappableType type reason.message (some schema) (some property))
  | emptyName _ => none

/-- What is reported about models that could not be written. -/
def ModelError.message (error : ModelError) : String :=
  match error, error.fault? with
  | _, some fault => fault.message
  | emptyName cause, none => cause.message
  | _, none => ""

/-- A property of a schema as a field of its class. -/
structure ModelField where
  name : String
  property : String
  required : Bool
  type : Mapped
  deriving Repr

namespace ModelField

/-- The annotation of a field: one that is not required may be absent. -/
def fieldType (field : ModelField) : Mapped :=
  if field.required then field.type else field.type.optional

/-- The declaration of a field. -/
def statement (field : ModelField) : Statement :=
  .declare field.name field.fieldType.expr <|
    .call (.name "Field") [] <|
      (if field.required then [] else [("default", .none)]) ++ [("alias", .text field.property)]

end ModelField

/-- The fields of properties, given the names of the fields before them. A name that is one of
these gets an underscore after it. -/
def modelFields (models : Models) (schemaName : String) (required : List String) :
    (taken : List String) → List (String × TypeRef) → Except ModelError (List ModelField)
  | _, [] => .ok []
  | taken, (property, type) :: rest => do
    let mapped ← (models.map type).mapError fun cause => .unmappable cause schemaName property
    let name ← (Naming.member property (Naming.propertyReserved models)).mapError .emptyName
    let free := if name ∈ taken then name ++ "_" else name
    let more ← modelFields models schemaName required (free :: taken) rest
    return ⟨free, property, property ∈ required, mapped⟩ :: more

/-- A model class with its fields. -/
structure Model where
  name : String
  description : Option String
  fields : List ModelField
  deriving Repr

namespace Model

/-- The model class of a schema. -/
def make (models : Models) (schemaName : String) (schema : Schema) : Except ModelError Model :=
  (modelFields models schemaName schema.required [] schema.properties).map fun fields => {
    name := (models.className? schemaName).getD (Naming.className schemaName)
    description := Text.filled schema.description
    fields := fields }

/-- The code of a model class. -/
def definition (model : Model) : ClassDefinition where
  name := model.name
  bases := [.name "BaseModel"]
  documentation := model.description.map documented
  body :=
    .statement (.assign (.name "model_config")
      (.call (.name "ConfigDict") [] [("populate_by_name", .true)])) ::
    model.fields.map (fun field => .statement field.statement)

/-- What the code of a model class imports. -/
def imports (model : Model) : Imports :=
  .from_ "pydantic" Naming.modelBaseNames ++
  .all (model.fields.map (·.fieldType.imports))

/-- The statement that settles the references of a model class. -/
def rebuild (model : Model) : Item :=
  .statement (.evaluate (.call (.field (.name model.name) "model_rebuild") [] []))

end Model

/-- The model classes of a description's schemas, in their order. -/
def modelsOf (document : Document) : Except ModelError (List Model) :=
  document.schemas.mapM fun (name, schema) => Model.make (.ofDocument document) name schema

/-- The models module. -/
def modelsModule (models : List Model) : Module where
  documentation := none
  body :=
    .statement (.importFrom ⟨0, "__future__", ["annotations"]⟩) ::
    ((Imports.all (models.map (·.imports))).statements.map fun imports =>
      .statement (.importFrom imports)) ++
    [.statement (exports (sorted (models.map (·.name))))] ++
    (models.map fun model => .class_ model.definition) ++
    models.map (·.rebuild)

end Bindery.Client

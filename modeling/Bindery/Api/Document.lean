import Bindery.Api.TypeRef

/-!
# API descriptions

A `Document` describes an API: the schemas of the values that are exchanged and the operations
that exchange them.  Its lists keep the order of the description.
-/

namespace Bindery.Api

/-- The part of a request that carries a parameter. -/
inductive Location where
  | path | query | header | body | form
  deriving DecidableEq, Repr

/-- How an array is written as one request value. -/
inductive CollectionFormat where
  | csv | ssv | tsv | pipes | multi
  deriving DecidableEq, Repr

namespace Location

/-- Every location, in the order messages list them. -/
def all : List Location := [path, query, header, body, form]

/-- The name of a location in a description. -/
def label : Location → String
  | path => "path"
  | query => "query"
  | header => "header"
  | body => "body"
  | form => "form"

end Location

namespace CollectionFormat

/-- Every collection format, in the order messages list them. -/
def all : List CollectionFormat := [csv, ssv, tsv, pipes, multi]

/-- The name of a collection format in a description. -/
def label : CollectionFormat → String
  | csv => "csv"
  | ssv => "ssv"
  | tsv => "tsv"
  | pipes => "pipes"
  | multi => "multi"

end CollectionFormat

/-- A parameter of an operation; `name` is its name on the wire. -/
structure Parameter where
  name : String
  location : Location
  required : Bool := false
  type : TypeRef := {}
  collectionFormat : Option CollectionFormat := none
  description : Option String := none
  deriving Repr

/-- An operation of an API. -/
structure Operation where
  name : String
  method : String := "get"
  path : String := "/"
  parameters : List Parameter := []
  returnType : Option TypeRef := none
  errorType : Option TypeRef := none
  description : Option String := none
  deriving Repr

/-- A schema: an object with declared properties. -/
structure Schema where
  description : Option String := none
  properties : List (String × TypeRef) := []
  required : List String := []
  deriving Repr

/-- A description of an API. -/
structure Document where
  title : String := "API"
  baseUrl : Option String := none
  schemas : List (String × Schema) := []
  operations : List Operation := []
  deriving Repr

namespace Document

/-- The names of the schemas. -/
def schemaNames (document : Document) : List String := document.schemas.map (·.1)

/-- The first operation of a name. -/
def operation? (document : Document) (name : String) : Option Operation :=
  document.operations.find? (·.name = name)

end Document

end Bindery.Api

import Bindery.Plan.Names

/-!
# Options types and their builders

An operation with parameters takes them as one value.  `Options` is the type of that value, with
a field for each parameter, and `Builder` is the class that fills it in step by step.
-/

namespace Bindery.Plan

open Bindery.Api Bindery.Typing

/-- Why the shape of an operation's code could not be put together. -/
inductive ShapeError where
  | noParameters (operation : String)
  | noOptionsName (operation : String)
  | noOptions (operation : String)
  | tooFewParameters
  | tooManyParameters
  | tooFewTypes
  | tooManyTypes
  deriving DecidableEq, Repr

/-- What is reported about parts that do not fit together. -/
def ShapeError.message : ShapeError → String
  | noParameters operation => "Operation " ++ operation ++ " has no parameters to aggregate"
  | noOptionsName operation => "Operation " ++ operation ++ " has no options type name"
  | noOptions operation => "Operation " ++ operation ++ " uses options but has no options type"
  | tooFewParameters => "zip() argument 2 is shorter than argument 1"
  | tooManyParameters => "zip() argument 2 is longer than argument 1"
  | tooFewTypes => "zip() argument 3 is shorter than arguments 1-2"
  | tooManyTypes => "zip() argument 3 is longer than arguments 1-2"

/-- A field of an options type: the parameter it holds and the type of that parameter. A value
may be left out, so the field itself is optional. -/
structure Field where
  name : String
  parameter : Parameter
  type : Mapped
  deriving Repr

/-- The type of a field as it is declared. -/
def Field.optionalType (field : Field) : Mapped := field.type.optional

/-- The fields of parameters, each with its name and type. The lists have to end together; the
first one that ends before or after those to the left of it is reported. -/
def alignFields : List String → List Parameter → List Mapped → Except ShapeError (List Field)
  | name :: members, parameter :: parameters, type :: types =>
    (alignFields members parameters types).map (⟨name, parameter, type⟩ :: ·)
  | [], [], [] => .ok []
  | _ :: _, [], _ => .error .tooFewParameters
  | [], _ :: _, _ => .error .tooManyParameters
  | _ :: _, _ :: _, [] => .error .tooFewTypes
  | [], [], _ :: _ => .error .tooManyTypes

/-- The type that holds the parameters of an operation, in the order of their declaration. -/
structure Options where
  name : String
  operation : String
  fields : List Field
  deriving Repr

namespace Options

/-- The names of the fields. -/
def fieldNames (options : Options) : List String := options.fields.map (·.name)

/-- The field of a name. -/
def field? (options : Options) (name : String) : Option Field :=
  options.fields.find? (·.name = name)

/-- The options type of an operation with at least one parameter. -/
def make (operation : Operation) (names : Names) (types : List Mapped) :
    Except ShapeError Options :=
  if operation.parameters.isEmpty then .error (.noParameters operation.name)
  else match names.optionsClass with
    | none => .error (.noOptionsName operation.name)
    | some name =>
      (alignFields names.members operation.parameters types).map fun fields =>
        ⟨name, operation.name, fields⟩

end Options

/-- A method of a builder that sets a field. One for plain texts takes any value and converts
it; the others take values of the field's type. -/
structure Setter where
  field : Field
  converts : Bool
  deriving Repr

/-- The name of a setter is that of its field. -/
def Setter.name (setter : Setter) : String := setter.field.name

/-- The class that builds values of an options type. -/
structure Builder where
  name : String
  target : Options
  setters : List Setter
  deriving Repr

namespace Builder

/-- The builder of an options type. -/
def make (options : Options) : Builder where
  name := Naming.builderClass options.name
  target := options
  setters := options.fields.map fun field => ⟨field, field.type.isText⟩

/-- The names of the setters. -/
def setterNames (builder : Builder) : List String := builder.setters.map (·.name)

/-- A builder has the setters of its options type's fields, in their order. -/
@[simp] theorem setterNames_make (options : Options) :
    (make options).setterNames = options.fieldNames := by
  simp [make, setterNames, Options.fieldNames, Setter.name, Function.comp_def]

end Builder

end Bindery.Plan

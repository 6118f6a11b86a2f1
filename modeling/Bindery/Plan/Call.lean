import Bindery.Plan.Options

/-!
# How an operation's function is called

The function of an operation takes its parameters one by one, or all of them as one options
value.  Either way its body reads each parameter from a local of the same name, so that the rest
of the code is the same for both.
-/

namespace Bindery.Plan

open Bindery.Api Bindery.Typing

/-- What an input of a function is for. -/
inductive Role where
  | configuration | options | parameter
  deriving DecidableEq, Repr

/-- How an input is annotated: by the name of a class, by a mapped type, or not at all. -/
inductive InputType where
  | named (name : String)
  | mapped (type : Mapped)
  | unknown
  deriving Repr

/-- An input of a function. -/
structure Input where
  name : String
  role : Role
  type : InputType
  keywordOnly : Bool := false
  deriving Repr

/-- The inputs of a function. -/
structure Signature where
  inputs : List Input
  deriving Repr

namespace Signature

/-- The inputs that are passed by position. -/
def positional (signature : Signature) : List Input := signature.inputs.filter (! ·.keywordOnly)

/-- The inputs that are passed by keyword. -/
def keywordOnly (signature : Signature) : List Input := signature.inputs.filter (·.keywordOnly)

/-- The names of the inputs. -/
def names (signature : Signature) : List String := signature.inputs.map (·.name)

end Signature

/-- Where a local takes its value from. -/
inductive Source where
  | options | argument
  deriving DecidableEq, Repr

/-- A local that holds a parameter. -/
structure Binding where
  name : String
  parameter : Parameter
  type : Mapped
  source : Source
  deriving Repr

/-- Whether the local's value has to be checked: a field of an options value may be left out
even if the parameter is required. -/
def Binding.checksPresence (binding : Binding) : Bool :=
  binding.source = .options && binding.parameter.required

/-- A function's inputs and the locals that hold its parameters. -/
structure CallPlan where
  signature : Signature
  bindings : List Binding
  deriving Repr

/-- The name of the argument that holds connection settings. -/
def configurationArgument : String := "configuration"

/-- The name of the argument that holds an options value. -/
def optionsArgument : String := "params"

/-- The input for connection settings, which every function starts with. -/
def configurationInput : Input where
  name := configurationArgument
  role := .configuration
  type := .named "Configuration"

/-- A required parameter as an input, passed by position. -/
def Field.requiredInput (field : Field) : Input where
  name := field.name
  role := .parameter
  type := .mapped field.type

/-- A parameter that may be left out as an input, passed by keyword. -/
def Field.optionalInput (field : Field) : Input where
  name := field.name
  role := .parameter
  type := .mapped field.optionalType
  keywordOnly := true

namespace Signature

/-- The signature with one input for each parameter, the required ones first. -/
def flat (fields : List Field) : Signature where
  inputs := configurationInput ::
    (fields.filter (·.parameter.required)).map (·.requiredInput) ++
    (fields.filter (! ·.parameter.required)).map (·.optionalInput)

/-- The signature with one input for all parameters. -/
def ofOptions (options : Options) : Signature where
  inputs := [configurationInput, {
    name := optionsArgument
    role := .options
    type := .named options.name }]

/-- The flat signature of an operation. -/
def baseline (operation : Operation) (names : Names) (types : List Mapped) :
    Except ShapeError Signature :=
  (alignFields names.members operation.parameters types).map flat

end Signature

/-- A parameter as a local. -/
def Field.binding (source : Source) (field : Field) : Binding :=
  ⟨field.name, field.parameter, field.type, source⟩

/-- Whether a function takes its parameters one by one or as an options value. -/
inductive Shape where
  | flat
  | options (options : Options)
  deriving Repr

namespace Shape

/-- The shape of an operation's function. Options can be used only if there is a type for them. -/
def make (operation : Operation) (usesOptions : Bool) (options : Option Options) :
    Except ShapeError Shape :=
  if usesOptions then
    match options with
    | some options => .ok (.options options)
    | none => .error (.noOptions operation.name)
  else .ok .flat

/-- Whether a shape uses options. -/
def usesOptions : Shape → Bool
  | flat => false
  | options _ => true

end Shape

/-- The inputs and locals of an operation's function. -/
def CallPlan.make (operation : Operation) (shape : Shape) (names : Names) (types : List Mapped) :
    Except ShapeError CallPlan :=
  match shape with
  | .flat =>
    (alignFields names.members operation.parameters types).map fun fields =>
      ⟨.flat fields, fields.map (·.binding .argument)⟩
  | .options options =>
    .ok ⟨.ofOptions options, options.fields.map (·.binding .options)⟩

end Bindery.Plan

import Bindery.Plan.OperationPlan

/-!
# The request of an operation

Which part of a request each local becomes.  The path is a template over the path parameters;
query, header and form parameters become dictionaries keyed by their names on the wire; a body
parameter is the body itself.  Nothing here depends on whether the locals are arguments or were
read from an options value.
-/

namespace Bindery.Client

open Bindery.Api Bindery.Code Bindery.Plan

/-- The value that is sent for a parameter. An array with a format that joins its items is
joined. -/
def wireValue (binding : Binding) : Expr :=
  let plain := Expr.name binding.name
  match binding.parameter.collectionFormat with
  | none | some .multi => plain
  | some format =>
    if binding.parameter.type.type = some "array" then
      .call (.name "format_collection") [plain, .text format.label] []
    else plain

/-- Whether the value that is sent for a parameter is joined. -/
def joinsItems (binding : Binding) : Bool :=
  match wireValue binding with
  | .call .. => true
  | _ => false

/-- The locals whose parameters are at a location. -/
def located (location : Location) (bindings : List Binding) : List Binding :=
  bindings.filter (·.parameter.location = location)

/-! ## The path -/

/-- A part of a path: text, or a name in braces. -/
inductive PathPart where
  | text (chars : List Char)
  | placeholder (name : List Char)
  deriving DecidableEq, Repr

namespace PathPart

/-- The name in the braces that a text starts with. It is not empty and reaches to the first
closing brace. -/
def name? (text : List Char) : Option (List Char) :=
  match text with
  | '{' :: rest =>
    let name := rest.takeWhile (· ≠ '}')
    if name.isEmpty || name.length = rest.length then none else some name
  | _ => none

/-- The parts of a path. -/
def split (path : List Char) : List PathPart :=
  match path with
  | [] => []
  | c :: rest =>
    match name? (c :: rest) with
    | some name => .placeholder name :: split (rest.drop (name.length + 1))
    | none => .text [c] :: split rest
termination_by path.length
decreasing_by all_goals simp; try omega

/-- A part as it stands in the path. -/
def chars : PathPart → List Char
  | text chars => chars
  | placeholder name => '{' :: name ++ ['}']

end PathPart

/-- Literal text as a part of a template, unless there is none. -/
def literalPart (text : List Char) : List TemplatePart :=
  if text.isEmpty then [] else [.literal (String.ofList text)]

/-- The template of a path: names with a value are filled in, and everything between them is
one literal. -/
def fillParts (value? : String → Option Expr) (pending : List Char) :
    List PathPart → List TemplatePart
  | [] => literalPart pending
  | part :: rest =>
    match part with
    | .text _ => fillParts value? (pending ++ part.chars) rest
    | .placeholder name =>
      match value? (String.ofList name) with
      | some value => literalPart pending ++ .hole value :: fillParts value? [] rest
      | none => fillParts value? (pending ++ part.chars) rest

/-- Whether a part of a template is filled in. -/
def isHole : TemplatePart → Bool
  | .hole _ => true
  | .literal _ => false

/-- The value of the path parameter of a name; of several the last counts. -/
def pathValue? (bindings : List Binding) (name : String) : Option Expr :=
  ((located .path bindings).reverse.find? (·.parameter.name = name)).map wireValue

/-- The path of a request: a template, or a plain text if there is nothing to fill in. -/
def pathExpr (path : String) (bindings : List Binding) : Expr :=
  let parts := fillParts (pathValue? bindings) [] (PathPart.split path.toList)
  if parts.any isHole then .template parts else .text path

/-! ## The other parts -/

/-- The parameters at a location as a dictionary, unless there are none. -/
def dictionary? (location : Location) (bindings : List Binding) : Option Expr :=
  match located location bindings with
  | [] => none
  | found => some (.dict (found.map fun binding => (binding.parameter.name, wireValue binding)))

/-- Why a request cannot be expressed: it would have several bodies. -/
structure SeveralBodies where
  parameters : List String
  deriving DecidableEq, Repr

/-- What is reported about several bodies. -/
def SeveralBodies.message (error : SeveralBodies) : String :=
  "multiple body parameters: " ++ ", ".intercalate error.parameters

/-- The body of a request, if it has one. -/
def body? (bindings : List Binding) : Except SeveralBodies (Option Expr) :=
  match located .body bindings with
  | [] => .ok none
  | [binding] => .ok (some (.name binding.name))
  | several => .error ⟨several.map (·.parameter.name)⟩

end Bindery.Client

import Bindery.Naming.Reserved

/-!
# The names of an operation's code

`Names.resolve` derives every name that the code of one operation needs and refuses an operation
whose names are taken or not distinct.  It looks at one operation only.
-/

namespace Bindery.Plan

open Bindery.Api Bindery.Code Bindery.Naming

/-- The names of an operation's code. Its members line up with its parameters; fields, setters
and locals are all called by them. The classes are there if the operation has an options type. -/
structure Names where
  operation : String
  function : String
  asyncFunction : String
  optionsClass : Option String
  builderClass : Option String
  members : List String
  deriving DecidableEq, Repr

/-- What a name collides with. -/
inductive Conflict where
  | reserved
  | parameter (name : String)
  | operation (name : String)
  deriving DecidableEq, Repr

/-- The wording of a conflict. -/
def Conflict.message : Conflict → String
  | reserved => "a reserved module-level name"
  | parameter name => "another parameter of the same operation ('" ++ name ++ "')"
  | operation name => "a name of operation '" ++ name ++ "'"

/-- A name of an operation's code that is taken. -/
structure Collision where
  operation : String
  identifier : String
  conflict : Conflict
  deriving DecidableEq, Repr

/-- Why the names of an operation could not be derived. -/
inductive NamesError where
  | empty (cause : EmptyName)
  | collision (collision : Collision)
  deriving DecidableEq, Repr

/-- The name of an operation's function. It does not hide a name that is always there. -/
def functionName (operation : String) : Except EmptyName String :=
  (plain operation).map fun name => if name ∈ builtins then name ++ "_" else name

/-- The member name of a parameter, given the names at the top of the module. -/
def memberName (reserved : List String) (parameter : String) : Except EmptyName String :=
  member parameter (parameterReserved reserved)

namespace Names

/-- The names of the classes. -/
def classes (names : Names) : List String :=
  names.optionsClass.toList ++ names.builderClass.toList

/-- Every name that the code defines at the top of its module. -/
def moduleNames (names : Names) : List String :=
  names.function :: names.asyncFunction :: names.classes

/-- The member names of parameters, distinct from each other and from those before them. -/
def resolveMembers (reserved : List String) (operation : String) :
    (taken : List String) → List Parameter → Except NamesError (List String)
  | _, [] => .ok []
  | taken, parameter :: rest =>
    match memberName reserved parameter.name with
    | .error cause => .error (.empty cause)
    | .ok name =>
      if name ∈ taken then
        .error (.collision ⟨operation, name, .parameter parameter.name⟩)
      else
        (resolveMembers reserved operation (name :: taken) rest).map (name :: ·)

/-- Every name that the code of an operation needs, given the names at the top of the module. -/
def resolve (reserved : List String) (operation : Operation) (usesOptions : Bool) :
    Except NamesError Names :=
  match functionName operation.name with
  | .error cause => .error (.empty cause)
  | .ok function =>
    let options := if usesOptions then some (Naming.optionsClass operation.name) else none
    let names : Names := {
      operation := operation.name
      function := function
      asyncFunction := "a" ++ function
      optionsClass := options
      builderClass := options.map Naming.builderClass
      members := [] }
    match names.moduleNames.find? fun name => ! name.isEmpty && decide (name ∈ reserved) with
    | some identifier => .error (.collision ⟨operation.name, identifier, .reserved⟩)
    | none =>
      (resolveMembers reserved operation.name [] operation.parameters).map fun members =>
        { names with members := members }

end Names

end Bindery.Plan

/-!
# Trees of emitted code

The fragment of Python that a generated client is written in.  Expressions nest freely.
Statements come in three layers: simple statements, the members of a class, and the items of a
module.  A text that documents a module, class or function is a field of its own and not a
statement.
-/

namespace Bindery.Code

mutual

/-- An expression. -/
inductive Expr where
  | name (id : String)
  | text (value : String)
  | int (value : Int)
  | none
  | true
  | field (owner : Expr) (name : String)
  | subscript (generic index : Expr)
  | tuple (items : List Expr)
  | dict (entries : List (String × Expr))
  | call (function : Expr) (arguments : List Expr) (keywords : List (String × Expr))
  | union (left right : Expr)
  | isNot (left right : Expr)
  | conditional (body test otherwise : Expr)
  | await (value : Expr)
  | template (parts : List TemplatePart)
  deriving Repr

/-- A part of an f-string. -/
inductive TemplatePart where
  | literal (text : String)
  | hole (value : Expr)
  deriving Repr

end

instance : Inhabited Expr := ⟨.none⟩

/-- Names imported from a module; `dots` counts the dots before a relative module's name. -/
structure Import where
  dots : Nat
  source : String
  names : List String
  deriving Repr, DecidableEq

/-- A statement without a block of its own. -/
inductive Statement where
  | pass
  | evaluate (value : Expr)
  | assign (target value : Expr)
  | declare (name : String) (type value : Expr)
  | result (value : Expr)
  | importFrom (imports : Import)
  deriving Repr

/-- An argument of a function. -/
structure Argument where
  name : String
  type : Option Expr
  deriving Repr

/-- The arguments of a function; those that are passed by keyword only have a default. -/
structure Arguments where
  positional : List Argument
  keywordOnly : List (Argument × Expr)
  deriving Repr

/-- A function or a method. -/
structure Function where
  name : String
  isAsync : Bool
  decorators : List Expr
  arguments : Arguments
  returns : Option Expr
  documentation : Option String
  body : List Statement
  deriving Repr

/-- A member of a class. -/
inductive Member where
  | statement (statement : Statement)
  | method (function : Function)
  deriving Repr

/-- A class. -/
structure ClassDefinition where
  name : String
  bases : List Expr
  documentation : Option String
  body : List Member
  deriving Repr

/-- An item at the top of a module. -/
inductive Item where
  | statement (statement : Statement)
  | function (function : Function)
  | class_ (definition : ClassDefinition)
  deriving Repr

/-- A module. -/
structure Module where
  documentation : Option String
  body : List Item
  deriving Repr

/-- The definition of `__all__`, the names that a module exports. -/
def exports (names : List String) : Statement :=
  .assign (.name "__all__") (.tuple (names.map .text))

end Bindery.Code

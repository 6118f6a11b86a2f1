import Bindery.Code.Render
import Bindery.Text.Digits

/-!
# How deep emitted code goes

Expressions lie in each other, and so do the brackets of their source.  Neither can go on without
end: source with too many brackets in each other is not compiled, and an expression that goes too
deep is not even written.
-/

namespace Bindery.Code

/-- Why code cannot be written. -/
inductive Unwritable where
  /-- An expression lies too deep in others. -/
  | tooDeep
  /-- An integer has too many digits. -/
  | hugeInteger
  deriving DecidableEq, Repr

/-- What is reported about code that cannot be written. -/
def Unwritable.message : Unwritable → String
  | tooDeep => "maximum recursion depth exceeded"
  | hugeInteger =>
    "Exceeds the limit (" ++ toString Text.maxDigits ++
      " digits) for integer string conversion; use sys.set_int_max_str_digits() to increase the " ++
      "limit"

namespace Expr

/-! ## Brackets -/

/-- The brackets around the innermost part of an operand, given how deep its own lie in each
other. -/
def operandNesting (place level depth : Nat) : Nat := if level < place then depth + 1 else depth

mutual

/-- How deep the brackets of the source of an expression lie in each other. -/
def nesting : Expr → Nat
  | name _ | text _ | int _ | none | true => 0
  | field owner _ => operandNesting 5 owner.level owner.nesting
  -- A tuple needs no parentheses between brackets unless it is empty.
  | subscript generic (tuple (item :: items)) =>
    max (operandNesting 5 generic.level generic.nesting)
      (1 + max item.nesting (nestingOfAll items))
  | subscript generic index =>
    max (operandNesting 5 generic.level generic.nesting) (1 + index.nesting)
  | tuple items => 1 + nestingOfAll items
  | dict entries => 1 + nestingOfEntries entries
  | call function arguments keywords =>
    max (operandNesting 5 function.level function.nesting)
      (1 + max (nestingOfAll arguments) (nestingOfEntries keywords))
  | union left right =>
    max (operandNesting 3 left.level left.nesting) (operandNesting 4 right.level right.nesting)
  | isNot left right =>
    max (operandNesting 3 left.level left.nesting) (operandNesting 3 right.level right.nesting)
  | conditional body test otherwise =>
    max (operandNesting 2 body.level body.nesting)
      (max (operandNesting 2 test.level test.nesting) otherwise.nesting)
  | await value => operandNesting 5 value.level value.nesting
  | template parts => nestingOfParts parts

/-- How deep the brackets of expressions lie in each other. -/
def nestingOfAll : List Expr → Nat
  | [] => 0
  | item :: items => max item.nesting (nestingOfAll items)

/-- How deep the brackets of named expressions lie in each other. -/
def nestingOfEntries : List (String × Expr) → Nat
  | [] => 0
  | (_, value) :: entries => max value.nesting (nestingOfEntries entries)

/-- How deep the brackets in the holes of an f-string lie in each other. Every hole is read as if
it were in brackets. -/
def nestingOfParts : List TemplatePart → Nat
  | [] => 0
  | .literal _ :: parts => nestingOfParts parts
  | .hole value :: parts => max (1 + value.nesting) (nestingOfParts parts)

end

/-! ## Steps -/

mutual

/-- How many steps a writer takes to the innermost part of an expression: three into every
expression, and two more where there are several side by side. -/
def reach : Expr → Nat
  | name _ | text _ | int _ | none | true => 3
  | field owner _ => 3 + owner.reach
  | subscript generic (tuple (item :: items)) =>
    3 + max generic.reach (2 + max item.reach (reachOfAll items))
  | subscript generic index => 3 + max generic.reach index.reach
  | tuple items => 5 + reachOfAll items
  | dict entries => 5 + reachOfEntries entries
  | call function arguments keywords =>
    3 + max function.reach (max (reachOfAll arguments) (3 + reachOfEntries keywords))
  | union left right | isNot left right => 3 + max left.reach right.reach
  | conditional body test otherwise => 3 + max body.reach (max test.reach otherwise.reach)
  | await value => 3 + value.reach
  | template parts => 3 + reachOfParts parts

/-- How many steps a writer takes to the innermost part of expressions. -/
def reachOfAll : List Expr → Nat
  | [] => 0
  | item :: items => max item.reach (reachOfAll items)

/-- How many steps a writer takes to the innermost part of named expressions. -/
def reachOfEntries : List (String × Expr) → Nat
  | [] => 0
  | (_, value) :: entries => max value.reach (reachOfEntries entries)

/-- How many steps a writer takes to the innermost part of the holes of an f-string. -/
def reachOfParts : List TemplatePart → Nat
  | [] => 0
  | .literal _ :: parts => reachOfParts parts
  | .hole value :: parts => max (3 + value.reach) (reachOfParts parts)

end

/-- The most steps that a writer takes. -/
def maxReach : Nat := 974

/-! ## Parts -/

mutual

/-- The parts of an expression, itself first. -/
def parts : Expr → List Expr
  | name id => [name id]
  | text value => [text value]
  | int value => [int value]
  | none => [none]
  | true => [true]
  | field owner key => field owner key :: owner.parts
  | subscript generic index => subscript generic index :: generic.parts ++ index.parts
  | tuple items => tuple items :: partsOfAll items
  | dict entries => dict entries :: partsOfEntries entries
  | call function arguments keywords =>
    call function arguments keywords ::
      function.parts ++ partsOfAll arguments ++ partsOfEntries keywords
  | union left right => union left right :: left.parts ++ right.parts
  | isNot left right => isNot left right :: left.parts ++ right.parts
  | conditional body test otherwise =>
    conditional body test otherwise :: body.parts ++ test.parts ++ otherwise.parts
  | await value => await value :: value.parts
  | template holes => template holes :: partsOfHoles holes

/-- The parts of expressions. -/
def partsOfAll : List Expr → List Expr
  | [] => []
  | item :: items => item.parts ++ partsOfAll items

/-- The parts of named expressions. -/
def partsOfEntries : List (String × Expr) → List Expr
  | [] => []
  | (_, value) :: entries => value.parts ++ partsOfEntries entries

/-- The parts of the holes of an f-string. -/
def partsOfHoles : List TemplatePart → List Expr
  | [] => []
  | .literal _ :: rest => partsOfHoles rest
  | .hole value :: rest => value.parts ++ partsOfHoles rest

end

/-- Whether an expression is an integer with more digits than are written. -/
def isHuge : Expr → Bool
  | int value => Nat.pow 10 Text.maxDigits ≤ value.natAbs
  | _ => false

/-- Whether an expression is no f-string that ends early. -/
def isClosed : Expr → Bool
  | template holes => Literal.isClosed (pieces holes)
  | _ => Bool.true

/-- Why an expression cannot be written. -/
def flaw? (value : Expr) : Option Unwritable :=
  if maxReach < value.reach then some .tooDeep
  else if value.parts.any isHuge then some .hugeInteger
  else Option.none

end Expr

/-! ## Expressions of a module -/

/-- An expression with the number of brackets around it. -/
abbrev Placed := Nat × Expr

/-- Expressions without brackets around them. -/
def placed (values : List Expr) : List Placed := values.map (0, ·)

/-- The expressions of a simple statement. -/
def Statement.expressions : Statement → List Placed
  | pass | importFrom _ => []
  | evaluate value | result value => placed [value]
  | assign target value => placed [target, value]
  | declare _ type value => placed [type, value]

/-- The expressions of the arguments of a function. -/
def Arguments.expressions (arguments : Arguments) : List Placed :=
  (arguments.positional.filterMap (·.type) ++
    arguments.keywordOnly.flatMap fun (argument, default) => argument.type.toList ++ [default]).map
    (1, ·)

/-- The expressions of a function. -/
def Function.expressions (function : Function) : List Placed :=
  placed function.decorators ++ function.arguments.expressions ++
    placed function.returns.toList ++ function.body.flatMap (·.expressions)

/-- The expressions of a member of a class. -/
def Member.expressions : Member → List Placed
  | .statement line => line.expressions
  | .method function => function.expressions

/-- The expressions of an item of a module. -/
def Item.expressions : Item → List Placed
  | .statement line => line.expressions
  | .function code => code.expressions
  | .class_ definition =>
    definition.bases.map (1, ·) ++ definition.body.flatMap (·.expressions)

/-- The expressions of a module. -/
def Module.expressions (module : Module) : List Placed := module.body.flatMap (·.expressions)

/-- Why a module cannot be written. -/
def Module.flaw? (module : Module) : Option Unwritable :=
  module.expressions.findSome? (·.2.flaw?)

/-- The most brackets that may lie in each other. -/
def maxNesting : Nat := 200

/-- Whether the source of an expression can be compiled, given the number of brackets around it. -/
def compilesIn (around : Nat) (value : Expr) : Bool :=
  around + value.nesting ≤ maxNesting && value.parts.all (·.isClosed)

end Bindery.Code

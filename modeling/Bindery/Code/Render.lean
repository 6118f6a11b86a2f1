import Bindery.Code.Literal
import Bindery.Code.Tree

/-!
# Source text of emitted code

`Module.render` and its companions write a tree as source text: one statement a line, four
spaces a level, a blank line before each function and class, and parentheses only where an
operand binds more loosely than its place allows.
-/

namespace Bindery.Code

open Literal (Piece)

namespace Expr

/-- How tightly an expression holds together; an operand that binds more loosely than its place
asks for is put into parentheses. -/
def level : Expr → Nat
  | conditional .. => 1
  | isNot .. => 2
  | union .. => 3
  | await .. => 4
  | _ => 5

/-- The source of an operand in a place that asks for a level. -/
def operand (place level : Nat) (source : String) : String :=
  if level < place then "(" ++ source ++ ")" else source

/-- Items with commas between them; a single item has one after it. -/
def listed : List String → String
  | [item] => item ++ ","
  | items => ", ".intercalate items

mutual

/-- The source of an expression, given how text literals are written. -/
def write (literal : String → String) : Expr → String
  | name id => id
  | text value => literal value
  | int value => toString value
  | none => "None"
  | true => "True"
  | field owner key => operand 5 owner.level (owner.write literal) ++ "." ++ key
  -- A tuple needs no parentheses between brackets unless it is empty.
  | subscript generic (tuple (item :: items)) =>
    operand 5 generic.level (generic.write literal) ++ "[" ++
      listed (item.write literal :: writeAll literal items) ++ "]"
  | subscript generic index =>
    operand 5 generic.level (generic.write literal) ++ "[" ++ index.write literal ++ "]"
  | tuple items => "(" ++ listed (writeAll literal items) ++ ")"
  | dict entries => "\x7b" ++ ", ".intercalate (writeEntries literal entries) ++ "\x7d"
  | call function arguments keywords =>
    operand 5 function.level (function.write literal) ++ "(" ++
      ", ".intercalate (writeAll literal arguments ++ writeKeywords literal keywords) ++ ")"
  | union left right =>
    operand 3 left.level (left.write literal) ++ " | " ++
      operand 4 right.level (right.write literal)
  | isNot left right =>
    operand 3 left.level (left.write literal) ++ " is not " ++
      operand 3 right.level (right.write literal)
  | conditional body test otherwise =>
    operand 2 body.level (body.write literal) ++ " if " ++
      operand 2 test.level (test.write literal) ++ " else " ++ otherwise.write literal
  | await value => "await " ++ operand 5 value.level (value.write literal)
  | template parts => Literal.template (pieces parts)

/-- The sources of expressions. -/
def writeAll (literal : String → String) : List Expr → List String
  | [] => []
  | item :: items => item.write literal :: writeAll literal items

/-- The sources of the entries of a dictionary. -/
def writeEntries (literal : String → String) : List (String × Expr) → List String
  | [] => []
  | (key, value) :: rest =>
    (literal key ++ ": " ++ value.write literal) :: writeEntries literal rest

/-- The sources of keyword arguments. -/
def writeKeywords (literal : String → String) : List (String × Expr) → List String
  | [] => []
  | (key, value) :: rest =>
    (key ++ "=" ++ value.write literal) :: writeKeywords literal rest

/-- The parts of an f-string, with the expressions in its holes written out. -/
def pieces : List TemplatePart → List Piece
  | [] => []
  | .literal plain :: rest => .literal plain :: pieces rest
  | .hole value :: rest => .source (value.write Literal.embedded) :: pieces rest

end

/-- The source of an expression. -/
def render (value : Expr) : String := value.write Literal.quoted

end Expr

namespace Import

/-- The source of an import. -/
def render (imports : Import) : String :=
  "from " ++ "".pushn '.' imports.dots ++ imports.source ++ " import " ++
    ", ".intercalate imports.names

end Import

/-- The indentation of a level. -/
def indent (depth : Nat) : String := "".pushn ' ' (4 * depth)

/-- The source of a simple statement. -/
def Statement.render : Statement → String
  | pass => "pass"
  | evaluate value => value.render
  | assign target value => target.render ++ " = " ++ value.render
  | declare name type value =>
    name ++ ": " ++ type.render ++ " = " ++ value.render
  | result value => "return " ++ value.render
  | importFrom imports => imports.render

/-- The source of an argument. -/
def Argument.render (argument : Argument) : String :=
  match argument.type with
  | none => argument.name
  | some type => argument.name ++ ": " ++ type.render

/-- The source of an argument list without its parentheses. -/
def Arguments.render (arguments : Arguments) : String :=
  let keywords := arguments.keywordOnly.map fun (argument, default) =>
    argument.render ++ "=" ++ default.render
  ", ".intercalate <|
    arguments.positional.map (·.render) ++ (if keywords.isEmpty then [] else "*" :: keywords)

/-- The line that documents a block, if there is one. -/
def documentationLines (depth : Nat) : Option String → List String
  | none => []
  | some text => [indent depth ++ Literal.documentation text]

namespace Function

/-- The line that opens a function. -/
def header (function : Function) : String :=
  (if function.isAsync then "async def " else "def ") ++ function.name ++ "(" ++
    function.arguments.render ++ ")" ++
    (match function.returns with
      | none => ""
      | some returns => " -> " ++ returns.render) ++ ":"

/-- The lines of a function, after the blank line that precedes it. -/
def lines (depth : Nat) (function : Function) : List String :=
  "" :: function.decorators.map (fun decorator => indent depth ++ "@" ++ decorator.render) ++
    [indent depth ++ function.header] ++
    documentationLines (depth + 1) function.documentation ++
    function.body.map fun statement => indent (depth + 1) ++ statement.render

end Function

/-- The lines of a member of a class. -/
def Member.lines (depth : Nat) : Member → List String
  | .statement line => [indent depth ++ line.render]
  | .method function => function.lines depth

namespace ClassDefinition

/-- The line that opens a class. -/
def header (definition : ClassDefinition) : String :=
  "class " ++ definition.name ++
    (if definition.bases.isEmpty then ""
      else "(" ++ ", ".intercalate (definition.bases.map (·.render)) ++ ")") ++ ":"

/-- The lines of a class, after the blank line that precedes it. -/
def lines (definition : ClassDefinition) : List String :=
  "" :: definition.header :: documentationLines 1 definition.documentation ++
    definition.body.flatMap (·.lines 1)

end ClassDefinition

/-- The lines of an item of a module. -/
def Item.lines : Item → List String
  | .statement line => [line.render]
  | .function code => code.lines 0
  | .class_ definition => definition.lines

/-- Lines joined to a text; a blank line is dropped where it would be the first. -/
def joinLines : List String → String
  | "" :: lines => "\n".intercalate lines
  | lines => "\n".intercalate lines

/-- The source of an item on its own. -/
def Item.render (item : Item) : String := joinLines item.lines

/-- The source of a module, without a line feed after its last line. -/
def Module.render (module : Module) : String :=
  joinLines (documentationLines 0 module.documentation ++ module.body.flatMap (·.lines))

end Bindery.Code

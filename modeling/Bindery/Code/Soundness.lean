import Bindery.Code.ModulePath
import Bindery.Code.Nesting
import Bindery.Code.Words

/-!
# Modules that can be compiled

Emitted code has the right structure by construction; what can be wrong with it are its names, and
how its expressions are written.  A module is valid if every name that it binds and every module
that it imports from is written as an identifier that is no keyword, no f-string ends early, and
brackets do not lie too deep in each other.

That decides whether the source of a module can be compiled as long as its imports say what they
seem to say.  Where the name of a module holds anything else than identifiers, the rest of the
source may take on another meaning, and only a compiler can tell.
-/

namespace Bindery.Code

/-- Whether a text can be a name. -/
def isName (text : String) : Bool := Text.isIdentifier text && ! keywords.contains text

/-- Whether an import is valid. After the dots of a relative import a name may follow or not. Any
module that is called like that of the language features counts as that module. -/
def Import.isValid (imports : Import) : Bool :=
  let path := ModulePath.parse imports.module
  path.names.all isName && (path.dots > 0 || ! path.names.isEmpty) &&
    ! imports.names.isEmpty && imports.names.all isName &&
    (path.canonical.names ≠ ["__future__"] ||
      imports.names.all (features.contains ·))

/-- Whether a simple statement is valid. -/
def Statement.isValid : Statement → Bool
  | .declare name _ _ => isName name
  | .assign (.name id) _ => isName id
  | .assign (.field _ key) _ => isName key
  | .importFrom imports => imports.isValid
  | _ => true

/-- The names of a function's arguments. -/
def Arguments.names (arguments : Arguments) : List String :=
  arguments.positional.map (·.name) ++ arguments.keywordOnly.map (·.1.name)

/-- Whether a function is valid. -/
def Function.isValid (function : Function) : Bool :=
  isName function.name && function.arguments.names.all isName &&
    function.arguments.names.Nodup && function.body.all (·.isValid)

/-- Whether a member of a class is valid. -/
def Member.isValid : Member → Bool
  | .statement line => line.isValid
  | .method function => function.isValid

/-- Whether an item of a module is valid. -/
def Item.isValid : Item → Bool
  | .statement line => line.isValid
  | .function code => code.isValid
  | .class_ definition => isName definition.name && definition.body.all (·.isValid)

/-- Whether a module is valid, its imports being what they seem to be. -/
def Module.isValid (module : Module) : Bool :=
  module.body.all (·.isValid) &&
    module.expressions.all fun (around, value) => compilesIn around value

/-- Whether the imports of an item are what they seem to be. -/
def Item.isPlain : Item → Bool
  | .statement (.importFrom imports) => isPlainName imports.module
  | _ => true

/-- Whether the imports of a module are what they seem to be. -/
def Module.isPlain (module : Module) : Bool := module.body.all (·.isPlain)

/-- The verdict of a compiler on a text. -/
abbrev Compiler := String → Bool

/-- A compiler that takes no text. With it a module is written only if its imports are what they
seem to be. -/
def Compiler.strict : Compiler := fun _ => false

/-- Whether a module can be compiled. A compiler is asked where its imports do not tell what its
source says. -/
def Module.compiles (compiler : Compiler) (module : Module) : Bool :=
  if module.isPlain then module.isValid else compiler (module.render ++ "\n")

end Bindery.Code

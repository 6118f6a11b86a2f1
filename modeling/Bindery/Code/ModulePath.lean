import Bindery.Code.Tree
import Bindery.Text.Compatibility
import Bindery.Text.Identifier
import Bindery.Text.Split

/-!
# The modules that imports name

An import names a module by identifiers with dots between them.  The dots before the first of these
lead up from the module that imports, and spaces between the words of the name do not matter.  The
name of a relative module is taken from the name of a file, so it can be any text; only of one that
is made of identifiers, dots and spaces does the import say what it seems to say.
-/

namespace Bindery.Code

/-- The module that an import statement names, with the dots before its name, as it is written. -/
def Import.module (imports : Import) : String :=
  String.ofList (List.replicate imports.dots '.' ++ imports.source.toList)

/-- Whether a character may stand between the words of a line. -/
def isSpace (c : Char) : Bool := c = ' ' || c = '\t' || c = '\x0c'

/-- The words between the dots of a module name, without the spaces around them. -/
def moduleWords (module : String) : List String :=
  (Text.split (· = '.') module.toList).map fun word =>
    String.ofList ((word.dropWhile isSpace).reverse.dropWhile isSpace).reverse

/-- Whether a module name is made of identifiers, dots and spaces. -/
def isPlainName (module : String) : Bool :=
  (moduleWords module).all fun word => word.isEmpty || Text.isIdentifier word

/-- A way from one module to another: up by the dots, where one stands for the directory of the
first module itself, and from there down by names. -/
structure ModulePath where
  dots : Nat
  names : List String
  deriving DecidableEq, Repr

namespace ModulePath

/-- The way that a module name gives, as it is written. -/
def parse (module : String) : ModulePath :=
  let words := moduleWords module
  let names := words.dropWhile (·.isEmpty)
  ⟨words.length - max 1 names.length, names⟩

/-- A way with its names in the form in which names are compared. -/
def canonical (path : ModulePath) : ModulePath :=
  { path with names := path.names.map Text.canonicalName }

/-- The way that an import of a module takes, if the import says what it seems to say. -/
def ofName? (module : String) : Option ModulePath :=
  if isPlainName module then some (parse module).canonical else none

example : ofName? ". .api.models " = some ⟨2, ["api", "models"]⟩ := by decide +kernel

end ModulePath

end Bindery.Code

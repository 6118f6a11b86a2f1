import Bindery.Code.Ascending
import Bindery.Code.Tree
import Bindery.Code.Words

/-!
# The imports that code needs

While code is put together, each piece asks for the names it needs.  `Imports` keeps the
requests; the import statements are read off them at the end, one a module, in an order that
depends only on what was asked for.
-/

namespace Bindery.Code

/-- Requests for names from modules. A module may be asked for without any name. -/
structure Imports where
  requests : List (String × List String)
  deriving Repr, DecidableEq

namespace Imports

/-- No request. -/
def empty : Imports := ⟨[]⟩

/-- A request for names from one module. -/
def from_ (module : String) (names : List String) : Imports := ⟨[(module, names)]⟩

instance : EmptyCollection Imports := ⟨empty⟩

instance : Append Imports := ⟨fun first second => ⟨first.requests ++ second.requests⟩⟩

@[simp] theorem requests_append (first second : Imports) :
    (first ++ second).requests = first.requests ++ second.requests := rfl

/-- All requests of several pieces of code. -/
def all (pieces : List Imports) : Imports := ⟨pieces.flatMap (·.requests)⟩

/-- The modules that are asked for, in code point order. -/
def modules (imports : Imports) : List String := ascending (imports.requests.map (·.1))

/-- The names that are asked for from a module, in code point order. -/
def names (imports : Imports) (module : String) : List String :=
  ascending ((imports.requests.filter (·.1 = module)).flatMap (·.2))

@[simp] theorem mem_modules {imports : Imports} {module : String} :
    module ∈ imports.modules ↔ ∃ names, (module, names) ∈ imports.requests := by
  simp [modules]

@[simp] theorem mem_names {imports : Imports} {module name : String} :
    name ∈ imports.names module ↔
      ∃ names, (module, names) ∈ imports.requests ∧ name ∈ names := by
  simp only [names, mem_ascending, List.mem_flatMap, List.mem_filter, decide_eq_true_eq]
  constructor
  · rintro ⟨⟨_, found⟩, ⟨member, rfl⟩, inside⟩
    exact ⟨found, member, inside⟩
  · rintro ⟨found, member, inside⟩
    exact ⟨(module, found), ⟨member, rfl⟩, inside⟩

/-- The groups that import statements come in. -/
inductive Origin where
  | standard | thirdParty | relative
  deriving DecidableEq, Repr

/-- The first component of a dotted module name. -/
def topLevel (module : String) : String :=
  String.ofList (module.toList.takeWhile (· ≠ '.'))

/-- Where a module comes from, by its name. -/
def origin (module : String) : Origin :=
  if module.toList.head? = some '.' then .relative
  else if topLevel module ∈ standardModules then .standard
  else .thirdParty

/-- The import statement for a module. -/
def statement (imports : Imports) (module : String) : Import where
  dots := (module.toList.takeWhile (· = '.')).length
  source := String.ofList (module.toList.dropWhile (· = '.'))
  names := imports.names module

/-- The modules that need an import statement: all but the one that is always there. -/
def emittedModules (imports : Imports) : List String :=
  imports.modules.filter (· ≠ "builtins")

/-- The import statements: standard library, third party, relative modules, and by name within
each group. -/
def statements (imports : Imports) : List Import :=
  let group (kind : Origin) := imports.emittedModules.filter (origin · = kind)
  (group .standard ++ group .thirdParty ++ group .relative).map imports.statement

end Imports

end Bindery.Code

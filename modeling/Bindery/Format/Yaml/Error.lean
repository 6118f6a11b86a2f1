import Bindery.Format.Unrepresentable

/-!
# What is wrong with a YAML text

Everything about the form of a text is one error; data without a value is told apart.
-/

namespace Bindery.Format.Yaml

/-- Why a YAML text could not be read. -/
inductive Error where
  | malformed
  | unrepresentable (flaw : Unrepresentable)
  /-- Half of a surrogate pair stands alone. -/
  | halfPair
  deriving DecidableEq, Repr

/-- A value that is there, or an error of form. -/
def orMalformed {α : Type} : Option α → Except Error α
  | some value => .ok value
  | none => .error .malformed

end Bindery.Format.Yaml

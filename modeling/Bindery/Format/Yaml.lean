import Bindery.Format.Yaml.Meaning

/-!
# Reading YAML

`Yaml.read` reads a YAML text that holds at most one document.  A text without a document stands
for nothing.
-/

namespace Bindery.Format.Yaml

open Bindery.Data

/-- Reads a YAML text. -/
def read (source : String) : Except Error Value := do
  let text := source.toList
  if ! text.all isReadable then throw .malformed
  match ← Graph.ofTokens (← tokens (unifyBreaks text)) with
  | some graph => graph.value
  | none => return .null

end Bindery.Format.Yaml

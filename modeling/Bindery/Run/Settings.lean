import Bindery.Data.Record
import Bindery.Plan.OperationPlan

/-!
# Settings of a run

What a run of the generator is told: the description to read, the directory to write to, the
names of the two files that can be chosen, and the variant of the client.
-/

namespace Bindery.Run

open Bindery.Data Bindery.Plan

/-- What one client is generated from and where it is written. -/
structure Settings where
  source : String
  baseUrl : Option String := none
  output : String
  modelsFile : String := "models.py"
  endpointsFile : String := "endpoints.py"
  variant : Variant := .options
  deriving DecidableEq, Repr

namespace Settings

/-- Reads the settings of a client. Keys that are not known do not matter. -/
def read : Value → Checked Settings :=
  Checked.record "DocumentConfig" fun entries =>
    Settings.mk
      <$> (Key.plain "source").required entries Checked.text
      <*> (Key.plain "base_url").optional entries none (Checked.optional Checked.text)
      <*> (Key.plain "output").required entries Checked.text
      <*> (Key.plain "models_file").optional entries "models.py" Checked.text
      <*> (Key.plain "endpoints_file").optional entries "endpoints.py" Checked.text
      <*> (Key.plain "client_variant").optional entries .options
        (Checked.choice Variant.all Variant.label)
      <* Key.textKeys entries

end Settings

end Bindery.Run

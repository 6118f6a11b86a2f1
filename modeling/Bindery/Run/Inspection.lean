import Bindery.Display.Table
import Bindery.Plan.OperationPlan

/-!
# Showing plans

How the plan of a client is shown: one row for every operation, those that failed at the end.
-/

namespace Bindery.Run

open Bindery.Display Bindery.Plan

/-- The columns that a plan is shown in. -/
def planColumns : List Column := [
  ⟨"Operation", .left⟩, ⟨"Parameters", .right⟩, ⟨"Signature", .left⟩, ⟨"Options type", .left⟩,
  ⟨"Builder", .left⟩]

/-- The row of an operation that was planned. -/
def planRow (plan : OperationPlan) : List String := [
  plan.operation.name, toString plan.operation.parameters.length,
  plan.names.function ++ "(" ++ ", ".intercalate plan.signature.names ++ ")",
  (Text.filled plan.names.optionsClass).getD "-", (Text.filled plan.names.builderClass).getD "-"]

/-- The row of an operation that failed. -/
def failureRow (failure : Failure) : List String :=
  [failure.operation, "", "[red]" ++ Markup.escape failure.fault.message ++ "[/red]", "", ""]

/-- The table of a report on operations. -/
def planTable (title : String) (report : Report) : Table where
  title := title
  columns := planColumns
  rows := report.plans.map planRow ++ report.failures.map failureRow

end Bindery.Run

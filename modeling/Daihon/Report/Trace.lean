import Daihon.Label.Run
import Daihon.Report.Grid

/-!
# Reports on runs

The trace of a run pairs every plan of a label with the result of its step.
-/

namespace Daihon.Report

open Label

abbrev TraceRow := Plan × StepResult

/-- The plans of a label with the results of a run. -/
def traceOf (l : Compiled) (results : List StepResult) : List TraceRow :=
  l.plans.zip results

def traceRowValue (row : TraceRow) : Value :=
  let (plan, result) := row
  .table
    [("index", .int plan.index), ("kind", .text plan.kind.name), ("line", .int plan.lineNumber),
      ("character", .text plan.character), ("content", .text plan.content),
      ("status", .text result.status), ("reason", (result.reason.map Value.text).getD .null)]

def traceValue (rows : List TraceRow) : Value :=
  .list (rows.map traceRowValue)

/-- The status of a step as it is shown: in yellow with the reason if it is degraded. -/
def statusCell (r : StepResult) : String :=
  match r.reason with
  | some reason => "[yellow]" ++ r.status ++ ": " ++ reason ++ "[/yellow]"
  | none => r.status

def traceGrid (rows : List TraceRow) : Grid :=
  { columns := [⟨"#", .right⟩, ⟨"Kind", .left⟩, ⟨"Character", .left⟩, ⟨"Content", .left⟩,
      ⟨"Status", .left⟩]
    rows := rows.map fun (plan, result) =>
      [toString plan.index, plan.kind.name, plan.character, plan.content, statusCell result] }

end Daihon.Report

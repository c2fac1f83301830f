import Daihon.Failure
import Daihon.Json.Printer

/-!
# Reports on errors

An error is reported as data with its message and an exit code, or as text.  The hint of a diagnostic
follows its message, except where a request was not valid.
-/

namespace Daihon.Report

def errorValue (message : String) (code : Int) : Value :=
  .table [("success", .bool false), ("error", .text message), ("code", .int code)]

/-- The lines of text that a failure is printed as, with markup. -/
def errorLines (f : Failure) : List String :=
  match f with
  | .diagnosed { kind := .validation, message, .. } =>
    ["[red]Validation Error: " ++ message ++ "[/red]"]
  | f =>
    ("[red]Error: " ++ f.message ++ "[/red]") ::
      (f.hint?.map fun hint => "[yellow]Hint: " ++ hint ++ "[/yellow]").toList

end Daihon.Report

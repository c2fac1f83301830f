import Daihon.Value.Literal

/-!
# Diagnostics

A diagnostic tells a script author what went wrong, how to mend it and where: a message, perhaps a
hint, and perhaps details.  Its full text has the message on the first line, then the hint, then one
line per detail; an empty hint or an empty list of details is left out.
-/

namespace Daihon

inductive DiagnosticKind where
  | general
  | configuration
  | parse
  | scriptNotFound
  | validation
  | stepExecution
  deriving DecidableEq, Repr

def DiagnosticKind.all : List DiagnosticKind :=
  [.general, .configuration, .parse, .scriptNotFound, .validation, .stepExecution]

/-- The name under which a kind of diagnostic is reported. -/
def DiagnosticKind.name : DiagnosticKind → String
  | .general => "VNScriptError"
  | .configuration => "ConfigurationError"
  | .parse => "ParseError"
  | .scriptNotFound => "ScenarioFileNotFoundError"
  | .validation => "ValidationError"
  | .stepExecution => "StepExecutionError"

def DiagnosticKind.ofName? (name : String) : Option DiagnosticKind :=
  DiagnosticKind.all.find? fun kind => kind.name == name

/-- An error with the help a script author needs. -/
structure Diagnostic where
  kind : DiagnosticKind
  message : String
  hint : Option String := none
  details : Option (Table Value) := none

namespace Diagnostic

/-- The hint, if there is one to show. -/
def shownHint? (d : Diagnostic) : Option String :=
  d.hint.filter fun hint => !hint.isEmpty

def text (d : Diagnostic) : String :=
  let hint :=
    match d.shownHint? with
    | some hint => "\nHint: " ++ hint
    | none => ""
  let details := d.details.getD []
  let detailText :=
    if details.isEmpty then ""
    else "\nDetails:\n" ++ "\n".intercalate (details.map fun (k, v) => "  " ++ k ++ ": " ++ v.shown)
  "Error: " ++ d.message ++ hint ++ detailText

end Diagnostic

end Daihon

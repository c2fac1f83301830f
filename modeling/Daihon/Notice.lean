import Daihon.Value.Basic

/-!
# Notices

What the library reports to its log while it works: for each notice its level, its event and its
fields.
-/

namespace Daihon

inductive Level where
  | debug
  | info
  | warning
  | error
  | critical
  deriving DecidableEq, Repr

def Level.all : List Level :=
  [.debug, .info, .warning, .error, .critical]

def Level.name : Level → String
  | .debug => "debug"
  | .info => "info"
  | .warning => "warning"
  | .error => "error"
  | .critical => "critical"

def Level.ofName? (name : String) : Option Level :=
  Level.all.find? fun level => level.name == name

/-- The kinds of cues that are reported before they reach a collaborator. -/
inductive Cue where
  | background
  | character
  | bgm
  | se
  deriving DecidableEq, Repr

/-- A report to the log. -/
inductive Notice where
  | scenarioParsed (title : String) (scenes skipped : Nat)
  | labelCompiled (label : String) (steps : Nat)
  | cue (cue : Cue) (content : String)
  | stepFailed (step : Nat) (kind content error : String)
  | labelFinished (label : String) (steps : Nat)
  | labelDegraded (label : String) (steps : List Nat)
  | readingScript (path encoding : String)
  | configMissing (path : String)
  deriving DecidableEq, Repr

def Cue.event : Cue → String
  | .background => "Setting background"
  | .character => "Adding character"
  | .bgm => "Playing BGM"
  | .se => "Playing SE"

/-- The field that carries the content of a cue. -/
def Cue.field : Cue → String
  | .background => "background"
  | .character => "character"
  | .bgm => "bgm"
  | .se => "se"

namespace Notice

def level : Notice → Level
  | scenarioParsed .. | labelCompiled .. | labelFinished .. | readingScript .. => .debug
  | cue .. => .info
  | stepFailed .. | labelDegraded .. | configMissing .. => .warning

def event : Notice → String
  | scenarioParsed .. => "Parsed scenario"
  | labelCompiled .. => "Compiled label"
  | cue c _ => c.event
  | stepFailed .. => "Step failed, continuing"
  | labelFinished .. => "Label finished"
  | labelDegraded .. => "Label finished with degraded steps"
  | readingScript .. => "Reading scenario file"
  | configMissing .. => "Configuration file not found, using defaults"

def fields : Notice → Table Value
  | scenarioParsed title scenes skipped =>
    [("title", .text title), ("scenes", .int scenes), ("skipped_lines", .int skipped)]
  | labelCompiled label steps => [("label_id", .text label), ("steps", .int steps)]
  | cue c content => [(c.field, .text content)]
  | stepFailed step kind content error =>
    [("step", .int step), ("kind", .text kind), ("content", .text content), ("error", .text error)]
  | labelFinished label steps => [("label_id", .text label), ("steps", .int steps)]
  | labelDegraded label steps =>
    [("label_id", .text label), ("degraded_steps", .list (steps.map fun n => .int (Int.ofNat n)))]
  | readingScript path encoding => [("path", .text path), ("encoding", .text encoding)]
  | configMissing path => [("config_file", .text path)]

end Notice

end Daihon

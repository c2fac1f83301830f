import Daihon.Failure
import Daihon.Files.Change
import Daihon.Settings.Coercion

/-!
# Setting up the log

The log has a threshold, one format, and one or two places to write to: always the error stream, and a
file if the settings name one.  Setting it up makes the directories above the file and the file.  What the
settings say need not have been checked: a value that names no level or no file is an error then.
-/

namespace Daihon.Logging

structure Options where
  level : Value
  format : Value
  file : Value
  debug : Bool

def Options.ofSettings (s : Settings) : Options :=
  { level := .text s.logLevel.capitals
    format := .text s.logFormat.name
    file := (s.logFile.map fun p => Value.text p.text).getD .null
    debug := s.debug }

/-- What values that nobody has checked say about the log: what is not given is at its default. -/
def Options.ofValues (t : Table Value) : Options :=
  let usual := Options.ofSettings .default
  { level := (Table.get? t Field.logLevel.name).getD usual.level
    format := (Table.get? t Field.logFormat.name).getD usual.format
    file := (Table.get? t Field.logFile.name).getD usual.file
    debug := ((Table.get? t Field.debug.name).map fun v => !v.isEmpty).getD usual.debug }

/-- A threshold: its number, and the name under which it is shown. -/
structure Threshold where
  number : Nat
  name : String
  deriving DecidableEq, Repr

/-- The names of thresholds, and what they stand for. -/
def thresholds : List (String × Threshold) :=
  [("CRITICAL", ⟨50, "CRITICAL"⟩), ("FATAL", ⟨50, "CRITICAL"⟩), ("ERROR", ⟨40, "ERROR"⟩),
    ("WARNING", ⟨30, "WARNING"⟩), ("WARN", ⟨30, "WARNING"⟩), ("INFO", ⟨20, "INFO"⟩),
    ("DEBUG", ⟨10, "DEBUG"⟩), ("NOTSET", ⟨0, "NOTSET"⟩)]

/-- The name of the text that log lines are laid out after, which is no level. -/
def layoutName : String := "BASIC_FORMAT"

/-- The text that log lines are laid out after. -/
def layoutText : String := "%(levelname)s:%(name)s:%(message)s"

/-- The name of the table of ways to lay out log lines, which is no level. -/
def layoutTableName : String := "_STYLES"

/-- The threshold that a value names; the case of letters does not count. -/
def thresholdOf (v : Value) : Except Failure Threshold :=
  match v with
  | .text s =>
    let name := Text.upper s
    match Table.get? thresholds name with
    | some threshold => .ok threshold
    | none =>
      if name == layoutName then .error (.textLevel layoutText)
      else if name == layoutTableName then .error .tableLevel
      else .error (.unknownLevel s)
  | v => .error (.unknownLevel v.shown)

def levelNumber : Level → Nat
  | .debug => 10
  | .info => 20
  | .warning => 30
  | .error => 40
  | .critical => 50

/-- The format of log lines that a value asks for; what names no format asks for the console format, but
a list or a table can be no name. -/
def formatOf (v : Value) : Except Failure LogFormat :=
  match v with
  | .text s => .ok ((LogFormat.ofName? s).getD .console)
  | v => if v.canBeKey then .ok .console else .error (.noKey v.typeName)

/-- The file that a value names; what counts as nothing names none. -/
def fileOf (v : Value) : Except Failure (Option Path) :=
  if v.isEmpty then .ok none
  else
    match v with
    | .text s => .ok (some (.ofText s))
    | v => .error (.noPath v.typeName)

/-- The places that log lines are written to. -/
inductive Target where
  | errorStream
  | file (path : Path)
  deriving DecidableEq, Repr

structure Setup where
  threshold : Threshold
  format : LogFormat
  debug : Bool
  targets : List Target
  deriving DecidableEq, Repr

/-- A path from the root without dots. -/
def normalPath (path : Path) : Path :=
  let path := path.absolute workDirectory
  { path with parts := (AbsolutePath.resolve path.parts).parts }

/-- Makes the directories above a log file, and the file. -/
def needLogFile (s : Surroundings) (path : Path) : Except DiskFault Surroundings :=
  match s.makeParents path with
  | .error fault => .error fault
  | .ok s => s.needFile (normalPath path)

/-- The places to write to, once they are there. -/
def openTargets (s : Surroundings) (file : Option Path) :
    Except Failure (List Target × Surroundings) :=
  match file with
  | none => .ok ([.errorStream], s)
  | some path =>
    match needLogFile s path with
    | .error fault => .error (.disk fault)
    | .ok s => .ok ([.errorStream, .file (normalPath path)], s)

def configure (s : Surroundings) (o : Options) : Except Failure (Setup × Surroundings) := do
  let threshold ← thresholdOf o.level
  let file ← fileOf o.file
  let (targets, s) ← openTargets s file
  let format ← formatOf o.format
  return (⟨threshold, format, o.debug, targets⟩, s)

/-! ## What a setup consists of -/

def Target.name : Target → String
  | .errorStream => "StreamHandler"
  | .file _ => "RotatingFileHandler"

/-- The name of what renders lines in a format. -/
def rendererName : LogFormat → String
  | .console => "ConsoleRenderer"
  | .json => "JSONRenderer"
  | .structured => "KeyValueRenderer"

/-- The names of the stages that an event passes through on its way to the log. -/
def Setup.stages (setup : Setup) : List String :=
  ["merge_contextvars", "filter_by_level", "TimeStamper", "add_log_level", "ExceptionRenderer"] ++
    (if setup.debug then ["CallsiteParameterAdder"] else []) ++
    match setup.format with
    | .console => ["ExceptionRenderer", "ConsoleRenderer"]
    | _ => ["ExceptionRenderer", "render_to_log_kwargs", "wrap_for_formatter"]

end Daihon.Logging

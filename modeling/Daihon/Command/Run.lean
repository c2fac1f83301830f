import Daihon.Command.Request
import Daihon.Report.Error
import Daihon.Report.Script
import Daihon.Report.Trace
import Daihon.Script.Source
import Daihon.Settings.Session

/-!
# Running commands

A request goes through its stages in order: the range of lines is checked, the settings are loaded, the
script is read, and the job is done.  The first stage that fails decides what is reported.  An answer or
an error is printed as data or as text, never both, and the exit code tells which it was.

Before any command line is looked at the modules of the program are loaded.  The first of them that asks for
a logger has the global settings loaded and the log set up, and what fails there is caught by nothing.

What is written to the log does not come back: the file of the log is taken to be none that a command reads.

* `Request.perform` goes through the stages of a request;
* `run` runs a command line in a session in which nothing has been loaded;
* `launch` starts the program and runs a command line.
-/

namespace Daihon.Command

open Script

/-! ## Requests -/

/-- What a request comes to. -/
inductive Answer where
  | document (doc : Document)
  | trace (label : String) (rows : List Report.TraceRow)
  | choices (cs : List Choice)

def Answer.value : Answer → Value
  | document doc => Report.documentValue doc
  | trace _ rows => Report.traceValue rows
  | choices cs => Report.choicesValue cs

/-- The texts that an answer is printed as, one after another. -/
def Answer.texts : Answer → List (Except Report.MarkupError String)
  | document doc =>
    [(Report.documentGrid doc).text.map Report.printDrawn,
      Report.printLine ("[green]" ++ toString doc.scenes.length ++ " scenes[/green]")]
  | trace label rows =>
    [Report.printLine ("[bold cyan]Label " ++ label ++ "[/bold cyan]"),
      (Report.traceGrid rows).text.map Report.printDrawn]
  | choices cs => [(Report.choicesText cs).map Report.printDrawn]

/-- The diagnostic for a range of lines that there cannot be. -/
def badRange (start : Int) (stop : Option Int) : Diagnostic :=
  let stopValue := (stop.map Value.int).getD .null
  { kind := .validation
    message := "Invalid line range: " ++ toString start ++ ".." ++ stopValue.shown
    hint := some "--start must be at least 1 and --end must not precede it."
    details := some [("start", .int start), ("end", stopValue)] }

/-- Whether a range of lines starts in front of the first line or stops before it starts. -/
def isBadRange (start : Int) (stop : Option Int) : Bool :=
  start < 1 || stop.any fun stop => stop < start

def Job.check : Job → Except Failure Unit
  | .choices start stop =>
    if isBadRange start stop then .error (.diagnosed (badRange start stop)) else .ok ()
  | _ => .ok ()

/-- The collaborators of a label that is run for its trace: none of them ever fails. -/
def dryCast (settings : Settings) : Label.Cast :=
  { names := settings.characterNames
    delivery := .awaited 0
    fault := fun _ _ => none }

/-- Runs a script as a label. -/
def trace (settings : Settings) (label text : String) : Except Failure Answer :=
  match Label.create (dryCast settings) label (.text text) settings .empty with
  | (.error f, _) => .error f
  | (.ok l, stage) =>
    (l.run (dryCast settings) stage).1.map fun results =>
      .trace label (Report.traceOf l results)

def Job.perform (s : Surroundings) (settings : Settings) (script : Path) :
    Job → Except Failure Answer
  | .parse =>
    (readText s script settings.scriptEncoding).1.map fun text => .document (.ofText text)
  | .run label =>
    match (readText s script settings.scriptEncoding).1 with
    | .error f => .error f
    | .ok text => trace settings label text
  | .choices start stop =>
    match (readLines s script start stop settings.scriptEncoding).1 with
    | .error f => .error f
    | .ok ls => (Choice.ofLines ls).map .choices

/-- Goes through the stages of a request. -/
def Request.perform (s : Session) (r : Request) : Except Failure Answer × Session :=
  match r.job.check with
  | .error f => (.error f, s)
  | .ok () =>
    match s.forCommand r.config [] with
    | ⟨.error f, s, _⟩ => (.error f, s)
    | ⟨.ok held, s, _⟩ => (r.job.perform s.surroundings held.loaded.settings r.script, s)

/-! ## Command lines -/

/-- What running a command line comes to: the exit code, what is printed, the session at its end, and a
failure that nothing has caught. -/
structure Result where
  exitCode : Nat
  output : String
  session : Session
  uncaught : Option Failure := none

/-- Data as it is printed: as JSON, with a line feed at its end. -/
def printed (v : Value) : String :=
  Json.print v ++ "\n"

/-- The result of printing texts one after another.  A text that cannot be shown is a failure that
nothing catches. -/
def printing (s : Session) (exitCode : Nat) (texts : List (Except Report.MarkupError String)) :
    Result :=
  match Report.printAll texts with
  | (output, none) => ⟨exitCode, output, s, none⟩
  | (output, some e) => ⟨1, output, s, some (.brokenMarkup e)⟩

/-- Runs a request and prints its answer or its error. -/
def Request.run (s : Session) (r : Request) : Result :=
  match r.perform s with
  | (.ok answer, s) =>
    if r.asJson then ⟨0, printed answer.value, s, none⟩ else printing s 0 answer.texts
  | (.error f, s) =>
    if r.asJson then ⟨1, printed (Report.errorValue f.message 1), s, none⟩
    else printing s 1 ((Report.errorLines f).map Report.printLine)

def programName : String := "vnscript"

def programVersion : String := "0.1.0"

def versionText (asJson : Bool) : String :=
  if asJson then printed (.table [("name", .text programName), ("version", .text programVersion)])
  else programName ++ " v" ++ programVersion ++ "\n"

def Instruction.run (s : Session) : Instruction → Result
  | .version asJson => ⟨0, versionText asJson, s, none⟩
  | .request r => r.run s

/-- The result of a command line that follows no rule. -/
def usageError (s : Session) : Result :=
  ⟨2, "", s, none⟩

/-- The variables that ask for a log of the given loudness. -/
def Loudness.asked (l : Loudness) : List (String × String) :=
  if l.debug then [(levelVariable, Level.capitals .debug), (debugVariable, "true")]
  else [(levelVariable, Level.capitals .info)]

/-- Sets the variables that ask for a louder log, loads the global settings anew and sets up the log from
them. -/
def turnUp (s : Session) (l : Loudness) : Session.Outcome Settings :=
  let environment := Table.putAll s.surroundings.environment l.asked
  { s with surroundings := { s.surroundings with environment } }.clear.configureLog

def tune (s : Session) (l : Loudness) : Except Failure Unit × Session :=
  if l.debug || l.verbose then
    let outcome := turnUp s l
    (outcome.answer.map fun _ => (), outcome.session)
  else (.ok (), s)

/-- Runs a command line that has been read up to the name of its command. -/
def Opening.run (s : Session) (o : Opening) : Result :=
  match tune s o.loudness with
  | (.error f, s) => ⟨1, "", s, some f⟩
  | (.ok (), s) =>
    match o.name.read s.surroundings.platform o.args with
    | none => usageError s
    | some instruction => instruction.run s

/-- The variable by which a shell asks how a command line goes on. -/
def completionVariable : String := "_VNSCRIPT_COMPLETE"

/-- What a shell asks, if it asks how the command line goes on; an empty text asks nothing. -/
def completion? (s : Surroundings) : Option String :=
  (s.lookup? completionVariable).filter fun instruction => !instruction.isEmpty

/-- Runs a command line in a session. -/
def runIn (s : Session) (args : List String) : Result :=
  match completion? s.surroundings with
  | some instruction =>
    let (exitCode, output) := s.surroundings.platform.complete instruction args
    ⟨exitCode, output, s, none⟩
  | none =>
    match Opening.read s.surroundings args with
    | none => usageError s
    | some o => o.run s

/-- Runs a command line in a session in which nothing has been loaded. -/
def run (s : Surroundings) (args : List String) : Result :=
  runIn { surroundings := s } args

/-! ## The program -/

/-- The first logger that is asked for when the modules are loaded. -/
def firstLogger : String := "vnscript.parser.scenario_parser"

/-- Loads the modules of the program.  Of their loggers the first one has the log set up. -/
def start (s : Surroundings) : Session.Outcome Bool :=
  Session.logger { surroundings := s } firstLogger

/-- Starts the program and runs a command line. -/
def launch (s : Surroundings) (args : List String) : Result :=
  let outcome := start s
  match outcome.answer with
  | .error f => ⟨1, "", outcome.session, some f⟩
  | .ok _ => runIn outcome.session args

end Daihon.Command

import Daihon.Command.Arguments
import Daihon.Decimal.Digits
import Daihon.Files.Path
import Daihon.Settings.Coercion
import Daihon.Value.Fault

/-!
# Requests

What a command line asks for: first how much the log is to tell, then a command and its arguments.  A
command line that follows no rule is a usage error.
-/

namespace Daihon.Command

/-- What is done with a script. -/
inductive Job where
  | parse
  | run (label : String)
  | choices (start : Int) (stop : Option Int)
  deriving DecidableEq, Repr

/-- A job on a script, the configuration file it is done with, and how its answer is printed. -/
structure Request where
  job : Job
  script : Path
  config : Option Path
  asJson : Bool
  deriving DecidableEq, Repr

inductive Instruction where
  | version (asJson : Bool)
  | request (r : Request)
  deriving DecidableEq, Repr

structure Loudness where
  verbose : Bool
  debug : Bool
  deriving DecidableEq, Repr

inductive CommandName where
  | parse
  | choices
  | run
  | version
  deriving DecidableEq, Repr

def CommandName.ofText? (s : String) : Option CommandName :=
  if s == "parse" then some .parse
  else if s == "choices" then some .choices
  else if s == "run" then some .run
  else if s == "version" then some .version
  else none

/-! ## Commands -/

/-- The label that a script is run as if no other is asked for. -/
def usualLabel : String := "prologue"

/-- A character as it counts in a whole number: the digits of other scripts count as the platform says. -/
def plainDigit (platform : Platform) (c : Char) : Char :=
  if Decimal.isDigit c then c else (platform.digit? c).getD c

/-- The whole number that a text spells: digits, not too many, perhaps with single underscores between
them, a sign and blanks around it. -/
def wholeNumber? (platform : Platform) (s : String) : Option Int :=
  let (negative, digits) := Decimal.signed ((Text.trim s.toList).map (plainDigit platform))
  if digits.isEmpty then none
  else (Decimal.grouped? digits).bind fun ds => (integerOfDigits negative ds).toOption

/-- A request for a job on the one script that the arguments name. -/
def requestFor? (a : Arguments) (job : Job) : Option Instruction :=
  match a.words with
  | [script] =>
    some (.request
      { job
        script := .ofText script
        config := (a.value? .config).map Path.ofText
        asJson := a.has .json })
  | _ => none

/-- The range of lines that arguments ask for; it must have a start. -/
def range? (platform : Platform) (a : Arguments) : Option Job :=
  match (a.value? .start).bind (wholeNumber? platform), a.value? .stop with
  | none, _ => none
  | some start, none => some (.choices start none)
  | some start, some stop => (wholeNumber? platform stop).map fun stop => .choices start (some stop)

def CommandName.read (platform : Platform) (name : CommandName) (args : List String) : Option Instruction :=
  match name with
  | .parse => (Arguments.read [.json, .config] true args).bind fun a => requestFor? a .parse
  | .run =>
    (Arguments.read [.label, .json, .config] true args).bind fun a =>
      requestFor? a (.run ((a.value? .label).getD usualLabel))
  | .choices =>
    (Arguments.read [.start, .stop, .json, .config] true args).bind fun a =>
      (range? platform a).bind (requestFor? a)
  | .version =>
    (Arguments.read [.json] true args).bind fun a =>
      if a.words.isEmpty then some (.version (a.has .json)) else none

/-! ## Command lines -/

/-- The variable that asks for a log in full detail. -/
def debugVariable : String := "VNSCRIPT_DEBUG"

/-- The variable that sets the threshold of the log. -/
def levelVariable : String := "VNSCRIPT_LOG_LEVEL"

/-- Whether the environment asks for a log in full detail; a blank variable counts as unset, and another
value must be a word for yes or no. -/
def debugAsked? (s : Surroundings) : Option Bool :=
  match s.lookup? debugVariable with
  | none => some false
  | some value =>
    let word := Text.trimmed value
    if word.isEmpty then some false else Coercion.switch? word

/-- A command line up to the name of its command, and the arguments that follow. -/
structure Opening where
  loudness : Loudness
  name : CommandName
  args : List String
  deriving DecidableEq, Repr

/-- Reads a command line up to the name of its command. -/
def Opening.read (s : Surroundings) (args : List String) : Option Opening :=
  match Arguments.read [.verbose, .debug] false args with
  | none => none
  | some a =>
    match if a.has .debug then some true else debugAsked? s, a.words with
    | some debug, name :: rest =>
      (CommandName.ofText? name).map fun name => ⟨⟨a.has .verbose, debug⟩, name, rest⟩
    | _, _ => none

end Daihon.Command

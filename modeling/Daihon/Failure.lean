import Daihon.Diagnostic
import Daihon.Encoding.Codec
import Daihon.Files.Disk
import Daihon.Platform
import Daihon.Report.Markup
import Daihon.Settings.Problem
import Daihon.Value.Fault

/-!
# Failures

Every way in which an operation can fail, told apart by its cause.  Each failure has the name under
which it is reported and a text; where a library words the text, the failure holds what it said.

An error that a collaborator raises need not spread as it is.  Steps of labels are coroutines, and an error
that says that an iteration is over leaves a coroutine as another error (`Failure.leaving`); what ends
whatever is running, such as a cancellation, is no error that can be handled (`Failure.isError`).
-/

namespace Daihon

/-! ### Errors of collaborators -/

/-- How far an error gets: most are errors that can be handled; one that says that an iteration is over
cannot leave a coroutine as it is; and some are meant to end whatever is running. -/
inductive Lineage where
  | error
  | exhausted
  | ending
  deriving DecidableEq, Repr

/-- The names of errors that are meant to end whatever is running. -/
def endingNames : List String :=
  ["BaseException", "BaseExceptionGroup", "CancelledError", "GeneratorExit", "KeyboardInterrupt",
    "SystemExit"]

/-- The lineage that the name of an error tells. -/
def Lineage.ofName (name : String) : Lineage :=
  if name == "StopIteration" then .exhausted
  else if endingNames.contains name then .ending
  else .error

/-! ### Failures -/

inductive Failure where
  /-- A diagnostic for the script author. -/
  | diagnosed (d : Diagnostic)
  /-- Settings with refused values, and what is said of them. -/
  | refused {text : String} (problems : List Problem)
  /-- A source of variables gives no JSON text for a field that is a table. -/
  | badTableText (field source : String)
  /-- What the caller says about the sources of settings makes no sense. -/
  | badOption (text : String)
  /-- A file stands where a directory with files for fields was asked for. -/
  | noDirectory
  /-- An operation on files failed. -/
  | disk (fault : DiskFault)
  /-- A configuration file does not follow its format, as the text says. -/
  | malformed (format : DataFormat) (text : String)
  /-- A configuration file is nested too deep, as the text says. -/
  | tooDeep (text : String)
  /-- A scalar in a configuration file spells no value. -/
  | badScalar (fault : ScalarFault)
  /-- Bytes spell no text, as the text says. -/
  | undecodable (text : String)
  /-- UTF-16 bytes without a byte order mark. -/
  | unmarked
  /-- There is no encoding of this name. -/
  | unknownEncoding (name : String)
  /-- A null character stands in the name of an encoding. -/
  | brokenEncodingName
  /-- A file that was asked for is missing. -/
  | missingFile (message : String)
  /-- Keys were looked for in a value that holds nothing. -/
  | notContainer (typeName : String)
  /-- Settings were to be made from a value that is no table. -/
  | notTable (typeName : String)
  /-- Settings were to be made from entries of which some have a key that is no text. -/
  | badKeys
  /-- The keys of a table were asked of another value. -/
  | noKeys (typeName : String)
  /-- A line of a block is no text. -/
  | notText (typeName : String)
  /-- Bytes were to be compared with texts. -/
  | textForBytes
  /-- The home directory of a user is not known. -/
  | noHome
  /-- There is no logging level of this name. -/
  | unknownLevel (name : String)
  /-- The name of a logging level stands for a text. -/
  | textLevel (text : String)
  /-- The name of a logging level stands for a table. -/
  | tableLevel
  /-- A value that is no text stands for a path. -/
  | noPath (typeName : String)
  /-- A value that is compared with names cannot be looked up. -/
  | noKey (typeName : String)
  /-- A field of a log event has a name that is taken. -/
  | takenName (name : String)
  /-- A value was to be put behind a text that is none. -/
  | notJoined (typeName : String)
  /-- A text for the terminal has a tag that cannot be shown. -/
  | brokenMarkup (e : Report.MarkupError)
  /-- An integer has more digits than are printed. -/
  | unprintable (limit : Nat)
  /-- An error raised by a collaborator, with its name and text. -/
  | raised (name text : String) (lineage : Lineage := .ofName name)

/-- The name under which a failed operation on files is reported. -/
def DiskError.name : DiskError → String
  | .missing => "FileNotFoundError"
  | .occupied => "FileExistsError"
  | .notDirectory => "NotADirectoryError"
  | .isDirectory => "IsADirectoryError"
  | .longName => "OSError"
  | .nullCharacter => "ValueError"

/-- The number and the wording of a failed operation on files, if it has a number. -/
def DiskError.wording? : DiskError → Option (Nat × String)
  | .missing => some (2, "No such file or directory")
  | .occupied => some (17, "File exists")
  | .notDirectory => some (20, "Not a directory")
  | .isDirectory => some (21, "Is a directory")
  | .longName => some (36, "File name too long")
  | .nullCharacter => none

/-- The text of a failed operation on files: number, wording and the path in quotes. -/
def DiskFault.text (fault : DiskFault) : String :=
  match fault.error.wording? with
  | some (number, wording) =>
    "[Errno " ++ toString number ++ "] " ++ wording ++ ": " ++
      .ofList (Text.quoted fault.path.text.toList)
  | none => "embedded null byte"

def Failure.name : Failure → String
  | .diagnosed d => d.kind.name
  | .refused _ => "SettingsValidationError"
  | .badTableText .. => "SettingsError"
  | .badOption _ => "TypeError"
  | .noDirectory => "SettingsError"
  | .disk fault => fault.error.name
  | .malformed .yaml _ => "YAMLError"
  | .malformed .toml _ => "TOMLDecodeError"
  | .malformed .json _ => "JSONDecodeError"
  | .tooDeep _ => "RecursionError"
  | .badScalar fault => fault.name
  | .undecodable _ => "UnicodeDecodeError"
  | .unmarked => "UnicodeError"
  | .unknownEncoding _ => "LookupError"
  | .brokenEncodingName => "ValueError"
  | .missingFile _ => "FileNotFoundError"
  | .notContainer _ => "TypeError"
  | .notTable _ => "TypeError"
  | .badKeys => "TypeError"
  | .noKeys _ => "AttributeError"
  | .notText _ => "AttributeError"
  | .textForBytes => "TypeError"
  | .noHome => "RuntimeError"
  | .unknownLevel _ => "ValueError"
  | .textLevel _ => "ValueError"
  | .tableLevel => "TypeError"
  | .noPath _ => "TypeError"
  | .noKey _ => "TypeError"
  | .takenName _ => "TypeError"
  | .notJoined _ => "TypeError"
  | .brokenMarkup .emptyPart => "ValueError"
  | .brokenMarkup _ => "MarkupError"
  | .unprintable _ => "ValueError"
  | .raised name _ _ => name

/-- The names of the logging levels, in alphabetical order. -/
def levelNames : List String :=
  ["CRITICAL", "DEBUG", "ERROR", "FATAL", "INFO", "NOTSET", "WARN", "WARNING"]

def Failure.text : Failure → String
  | .diagnosed d => d.text
  | @Failure.refused text _ => text
  | .badTableText field source =>
    "error parsing value for field \"" ++ field ++ "\" from source \"" ++ source ++ "\""
  | .badOption text => text
  | .noDirectory => "secrets_dir must reference a directory, not a file"
  | .disk fault => fault.text
  | .malformed _ text => text
  | .tooDeep text => text
  | .badScalar fault => fault.text
  | .undecodable text => text
  | .unmarked => "UTF-16 stream does not start with BOM"
  | .unknownEncoding name => "unknown encoding: " ++ name
  | .brokenEncodingName => "embedded null character"
  | .missingFile message => message
  | .notContainer typeName => "argument of type '" ++ typeName ++ "' is not iterable"
  | .notTable typeName =>
    "vnscript.config.settings.VNScriptSettings() argument after ** must be a mapping, not " ++ typeName
  | .badKeys => "keywords must be strings"
  | .noKeys typeName => "'" ++ typeName ++ "' object has no attribute 'keys'"
  | .notText typeName => "'" ++ typeName ++ "' object has no attribute 'strip'"
  | .textForBytes => "a bytes-like object is required, not 'str'"
  | .noHome => "Could not determine home directory."
  | .unknownLevel name =>
    "Invalid log level '" ++ name ++ "'. Valid levels are: " ++ ", ".intercalate levelNames
  | .textLevel text => "Unknown level: " ++ .ofList (Text.quoted text.toList)
  | .tableLevel => "Level not an integer or a valid string"
  | .noPath typeName => "expected str, bytes or os.PathLike object, not " ++ typeName
  | .noKey typeName => "unhashable type: '" ++ typeName ++ "'"
  | .takenName name => "got multiple values for argument '" ++ name ++ "'"
  | .notJoined typeName => "can only concatenate str (not \"" ++ typeName ++ "\") to str"
  | .brokenMarkup e => e.text
  | .unprintable limit =>
    "Exceeds the limit (" ++ toString limit ++
      " digits) for integer string conversion; use sys.set_int_max_str_digits() to increase the limit"
  | .raised _ text _ => text

/-- The message of a failure: that of a diagnostic without hint and details, and otherwise the
text. -/
def Failure.message : Failure → String
  | .diagnosed d => d.message
  | f => f.text

def Failure.hint? : Failure → Option String
  | .diagnosed d => d.shownHint?
  | _ => none

/-! ### How failures spread -/

def Failure.lineage : Failure → Lineage
  | .raised _ _ lineage => lineage
  | _ => .error

/-- Whether a failure can be handled, as opposed to one that ends whatever is running. -/
def Failure.isError (f : Failure) : Bool :=
  f.lineage ≠ .ending

/-- What a failure is outside of the coroutine in which it came up. -/
def Failure.leaving (f : Failure) : Failure :=
  if f.lineage = .exhausted then .raised "RuntimeError" "coroutine raised StopIteration" .error else f

@[simp] theorem Failure.isError_leaving (f : Failure) : f.leaving.isError = f.isError := by
  unfold leaving isError
  split
  · rename_i h
    rw [h]
    rfl
  · rfl

end Daihon

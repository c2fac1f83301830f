import Daihon.Files.Path
import Daihon.Notice
import Daihon.Value.Basic

/-!
# Settings

The settings are a record of seventeen fields.  Each field has a name, a type and a default, and the
values of its type are exactly the ones the settings may hold: a volume lies between 0 and 1, a size is
positive, a log file is an absolute path.

* `Settings.get` reads a field and `Settings.ofFields` builds a record from its fields; each undoes the
  other.
-/

namespace Daihon

/-- A loudness between silence and full volume. -/
structure Volume where
  value : Float
  low : 0 ≤ value
  high : value ≤ 1

structure Size where
  value : Nat
  positive : 0 < value
  deriving DecidableEq

inductive LogFormat where
  | console
  | json
  | structured
  deriving DecidableEq, Repr

def LogFormat.all : List LogFormat :=
  [.console, .json, .structured]

def LogFormat.name : LogFormat → String
  | .console => "console"
  | .json => "json"
  | .structured => "structured"

def LogFormat.ofName? (name : String) : Option LogFormat :=
  LogFormat.all.find? fun format => format.name == name

def Level.capitals : Level → String
  | .debug => "DEBUG"
  | .info => "INFO"
  | .warning => "WARNING"
  | .error => "ERROR"
  | .critical => "CRITICAL"

def Level.ofCapitals? (name : String) : Option Level :=
  Level.all.find? fun level => level.capitals == name

/-! ## Fields -/

inductive FieldType where
  | flag
  | level
  | format
  | file
  | text
  | volume
  | size
  | offset
  | names
  deriving DecidableEq, Repr

/-- The values of a type of field. -/
abbrev FieldType.Carrier : FieldType → Type
  | .flag => Bool
  | .level => Level
  | .format => LogFormat
  | .file => Option AbsolutePath
  | .text => String
  | .volume => Volume
  | .size => Size
  | .offset => Nat
  | .names => Table String

/-- The fields of the settings. -/
inductive Field where
  | debug
  | logLevel
  | logFormat
  | logFile
  | scriptEncoding
  | bgmTrack
  | bgmVolume
  | bgmLoop
  | seTrack
  | seVolume
  | stageWidth
  | stageHeight
  | portraitWidth
  | portraitHeight
  | portraitBaseline
  | characterKeys
  | characterNames
  deriving DecidableEq, Repr

namespace Field

/-- The fields, in the order in which they are listed. -/
def all : List Field :=
  [debug, logLevel, logFormat, logFile, scriptEncoding, bgmTrack, bgmVolume, bgmLoop, seTrack,
    seVolume, stageWidth, stageHeight, portraitWidth, portraitHeight, portraitBaseline,
    characterKeys, characterNames]

def name : Field → String
  | debug => "debug"
  | logLevel => "log_level"
  | logFormat => "log_format"
  | logFile => "log_file"
  | scriptEncoding => "script_encoding"
  | bgmTrack => "bgm_track"
  | bgmVolume => "bgm_volume"
  | bgmLoop => "bgm_loop"
  | seTrack => "se_track"
  | seVolume => "se_volume"
  | stageWidth => "stage_width"
  | stageHeight => "stage_height"
  | portraitWidth => "portrait_width"
  | portraitHeight => "portrait_height"
  | portraitBaseline => "portrait_baseline"
  | characterKeys => "character_keys"
  | characterNames => "character_names"

def ofName? (name : String) : Option Field :=
  all.find? fun field => field.name == name

abbrev type : Field → FieldType
  | debug | bgmLoop => .flag
  | logLevel => .level
  | logFormat => .format
  | logFile => .file
  | scriptEncoding | bgmTrack | seTrack => .text
  | bgmVolume | seVolume => .volume
  | stageWidth | stageHeight | portraitWidth | portraitHeight => .size
  | portraitBaseline => .offset
  | characterKeys | characterNames => .names

theorem mem_all (f : Field) : f ∈ all := by
  cases f <;> decide

end Field

structure Settings where
  debug : Bool := false
  logLevel : Level := .warning
  logFormat : LogFormat := .console
  logFile : Option AbsolutePath := none
  scriptEncoding : String := "utf-8"
  bgmTrack : String := "bgm_main"
  bgmVolume : Volume := ⟨0.6, by decide, by decide⟩
  bgmLoop : Bool := true
  seTrack : String := "se_click"
  seVolume : Volume := ⟨0.8, by decide, by decide⟩
  stageWidth : Size := ⟨1280, by decide⟩
  stageHeight : Size := ⟨720, by decide⟩
  portraitWidth : Size := ⟨300, by decide⟩
  portraitHeight : Size := ⟨400, by decide⟩
  portraitBaseline : Nat := 650
  characterKeys : Table String := [("主人公", "protagonist"), ("ななたう", "nanatau")]
  characterNames : Table String :=
    [("protagonist", "主人公"), ("nanatau", "ななたう"), ("system", "システム")]

namespace Settings

def default : Settings := {}

def get (s : Settings) : (f : Field) → f.type.Carrier
  | .debug => s.debug
  | .logLevel => s.logLevel
  | .logFormat => s.logFormat
  | .logFile => s.logFile
  | .scriptEncoding => s.scriptEncoding
  | .bgmTrack => s.bgmTrack
  | .bgmVolume => s.bgmVolume
  | .bgmLoop => s.bgmLoop
  | .seTrack => s.seTrack
  | .seVolume => s.seVolume
  | .stageWidth => s.stageWidth
  | .stageHeight => s.stageHeight
  | .portraitWidth => s.portraitWidth
  | .portraitHeight => s.portraitHeight
  | .portraitBaseline => s.portraitBaseline
  | .characterKeys => s.characterKeys
  | .characterNames => s.characterNames

/-- The settings with the given value in every field. -/
def ofFields (value : (f : Field) → f.type.Carrier) : Settings :=
  { debug := value .debug
    logLevel := value .logLevel
    logFormat := value .logFormat
    logFile := value .logFile
    scriptEncoding := value .scriptEncoding
    bgmTrack := value .bgmTrack
    bgmVolume := value .bgmVolume
    bgmLoop := value .bgmLoop
    seTrack := value .seTrack
    seVolume := value .seVolume
    stageWidth := value .stageWidth
    stageHeight := value .stageHeight
    portraitWidth := value .portraitWidth
    portraitHeight := value .portraitHeight
    portraitBaseline := value .portraitBaseline
    characterKeys := value .characterKeys
    characterNames := value .characterNames }

@[simp] theorem get_ofFields (value : (f : Field) → f.type.Carrier) (f : Field) :
    (ofFields value).get f = value f := by
  cases f <;> rfl

@[simp] theorem ofFields_get (s : Settings) : ofFields s.get = s := rfl

end Settings

/-! ## Values given for fields -/

/-- A value given for a field: data, or a file path that has been resolved before. -/
inductive Given where
  | data (v : Value)
  | file (p : AbsolutePath)

/-- A value of a field as it is given to build other settings from. -/
def FieldType.give : (t : FieldType) → t.Carrier → Given
  | .flag, b => .data (.bool b)
  | .level, l => .data (.text l.capitals)
  | .format, f => .data (.text f.name)
  | .file, none => .data .null
  | .file, some p => .file p
  | .text, s => .data (.text s)
  | .volume, v => .data (.float v.value)
  | .size, n => .data (.int n.value)
  | .offset, n => .data (.int n)
  | .names, t => .data (.table (t.map fun (k, v) => (k, .text v)))

/-- The value of a given value: a path is shown as its text. -/
def Given.value : Given → Value
  | .data v => v
  | .file p => .text p.text

/-- All fields of the settings with their values, in order. -/
def Settings.dump (s : Settings) : Table Value :=
  Field.all.map fun f => (f.name, (f.type.give (s.get f)).value)

end Daihon

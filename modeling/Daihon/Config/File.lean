import Daihon.Config.Toml.Document
import Daihon.Config.Yaml.Data
import Daihon.Settings.Sources

/-!
# Configuration files

A configuration file is read by the format that its suffix names.  Its data must be a table without
the misspelled keys that are asked about first.
-/

namespace Daihon

/-! ## Misspelled keys -/

/-- The keys that are often written in place of the name of a field, and the name that is meant. -/
def misspelledKeys : List (String × String) :=
  [("encoding", "script_encoding"), ("bgm", "bgm_track"), ("se", "se_track"),
    ("characters", "character_keys")]

def misspelled (wrong right : String) (found : List Value) : Diagnostic :=
  { kind := .configuration
    message := "Invalid configuration key '" ++ wrong ++ "'"
    hint := some ("Use '" ++ right ++ "' instead of '" ++ wrong ++ "'")
    details := some
      [("found_keys", .list found), ("invalid_key", .text wrong),
        ("correct_key", .text right)] }

/-- Whether `key` is found in a value: as a key of a table, an item of a list or a set, or a part of a
text.  Other values hold nothing. -/
def holdsKey? (key : String) : Value → Option Bool
  | .text s | .brokenText s => some (Text.contains key.toList s.toList)
  | .list items | .set items => some (items.any fun v => v.isSameKey (.text key))
  | .pair a b => some (a.isSameKey (.text key) || b.isSameKey (.text key))
  | v => v.pairs?.map fun es => es.any fun e => e.1.isSameKey (.text key)

/-- Looks for misspelled keys, in order. -/
def checkKeysFrom (v : Value) : List (String × String) → Except Failure Unit
  | [] => .ok ()
  | (wrong, right) :: rest =>
    match holdsKey? wrong v with
    | none => .error (.notContainer v.typeName)
    | some false => checkKeysFrom v rest
    | some true =>
      match v.pairs? with
      | some es => .error (.diagnosed (misspelled wrong right (es.map Prod.fst)))
      | none => .error (.noKeys v.typeName)

def checkKeys (v : Value) : Except Failure Unit :=
  checkKeysFrom v misspelledKeys

/-! ## Reading files -/

def configSuffixes : List (String × DataFormat) :=
  [(".yml", .yaml), (".yaml", .yaml), (".toml", .toml), (".json", .json)]

def unsupportedFormat (path : Path) (suffix : String) : Diagnostic :=
  { kind := .configuration
    message := "Unsupported configuration file format: " ++ suffix
    hint := some "Use one of the supported formats: .yml, .yaml, .toml, or .json"
    details := some
      [("file", .text path.text), ("detected_format", .text suffix),
        ("supported_formats", .list (configSuffixes.map fun (s, _) => .text s))] }

/-- The data in the text of a file.  Empty YAML data counts as an empty table. -/
def DataFormat.read (format : DataFormat) (text : List Char) : Except DataFault Value :=
  match format with
  | .yaml => (Yaml.parse text).map fun v => if v.isEmpty then .table [] else v
  | .toml => (Toml.parse text).map .table
  | .json => Json.parse (some digitLimit) (Text.unifyNewlines text)

/-- The data in the text of a file, unless it is nested too deep for the platform. -/
def DataFormat.parse (platform : Platform) (format : DataFormat) (text : List Char) :
    Except Failure Value :=
  match platform.tooDeep? format text with
  | some said => .error (.tooDeep said)
  | none =>
    match format.read text with
    | .ok v => .ok v
    | .error .malformed => .error (.malformed format (platform.malformed format text))
    | .error (.scalar f) => .error (.badScalar f)

/-- The data in a file of the given format. -/
def readData (platform : Platform) (format : DataFormat) (path : Path) (entry : Entry) :
    Except Failure (Table Value) :=
  match entry with
  | .directory => .error (.disk ⟨.isDirectory, path⟩)
  | .file bytes =>
    match Encoding.Utf8.decode bytes with
    | .error fault => .error (.undecodable fault.text)
    | .ok text =>
      match format.parse platform text with
      | .error e => .error e
      | .ok v =>
        match checkKeys v with
        | .error e => .error e
        | .ok () =>
          match v with
          | .table t => .ok t
          | .mapping _ => .error .badKeys
          | v => .error (.notTable v.typeName)

/-- The data in a configuration file. -/
def configData (s : Surroundings) (path : Path) : Except Failure (Table Value) :=
  match s.lookFor path with
  | .error fault => .error (.disk fault)
  | .ok none => .error (.missingFile ("Configuration file not found: " ++ path.text))
  | .ok (some entry) =>
    let suffix := Text.lower path.suffix
    match Table.get? configSuffixes suffix with
    | none => .error (.diagnosed (unsupportedFormat path suffix))
    | some format => readData s.platform format path entry

end Daihon

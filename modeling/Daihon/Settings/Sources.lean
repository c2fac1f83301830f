import Daihon.Config.Dotenv
import Daihon.Files.Decoding
import Daihon.Json.Reader
import Daihon.Settings.Coercion
import Daihon.Settings.Options
import Daihon.Text.Lines
import Daihon.Text.Search

/-!
# Where settings come from

The value of a field is given, in order of strength, by the caller, by a variable of the environment,
by a variable in a file such as `.env`, by a file of its own, or by its default.

The library that gathers settings documents how it does so, and is taken at its word:

* sources are asked in the order of their strength (`Surroundings.layers`), and all of them are asked before any
  value is read;
* two tables given for the same field are merged key by key, and otherwise the stronger value replaces the
  weaker one (`Layer.merge`);
* a variable is found by the name of its field, in any case unless an option says otherwise, and of several the
  last counts (`variableFor`);
* the variable of a table is a JSON text (`givenByText`), and its entries may have variables of their own if an
  option names what separates their keys (`entriesFor`);
* every value that is refused is reported, and in the order of the fields (`Loaded.problems`).

* `Layer` is what one source gives for each field;
* `Layer.above` puts a stronger layer over a weaker one, and `Layer.aboveAll` over a row of weaker ones;
* `Loaded.build` reads all fields and reports every value that is refused.
-/

namespace Daihon

/-- What a source gives for each field. -/
abbrev Layer := Field → Option Given

namespace Layer

def empty : Layer := fun _ => none

/-- A stronger value put over a weaker one. -/
def merge (strong weak : Given) : Given :=
  match strong, weak with
  | .data v, .data w =>
    match v.pairs?, w.pairs? with
    | some new, some old => .data (.ofPairs (Value.putPairs old new))
    | _, _ => strong
  | _, _ => strong

def above (strong weak : Layer) : Layer := fun f =>
  match strong f, weak f with
  | some s, some w => some (merge s w)
  | some s, none => some s
  | none, w => w

/-- A layer put over weaker ones, of which the strongest come first.  The weaker ones are put below one after
another, so that a table is merged with the tables of all of them, whatever stands between. -/
def aboveAll (strong : Layer) (weak : List Layer) : Layer :=
  weak.foldl above strong

/-- The values that `new` gives, and where it gives none those of `old`. -/
def update (old new : Layer) : Layer := fun f =>
  match new f with
  | some g => some g
  | none => old f

/-- The fields named by the keys of a table, as they stand. -/
def ofNames (t : Table Value) : Layer := fun f =>
  (Table.get? t f.name).map .data

/-- The fields named by the keys of a table.  Of several keys for one field the first counts. -/
def ofTable (o : SourceOptions) (t : Table Value) : Layer := fun f =>
  (t.find? fun e => o.fold e.1 == f.name).map fun e => .data e.2

/-- The fields in `t` whose value is not null. -/
def withoutNull (t : Table Value) : Table Value :=
  t.filter fun (_, v) =>
    match v with
    | .null => false
    | _ => true

end Layer

/-! ## Variables -/

inductive Source where
  | environment
  | variableFile
  | ownFile
  deriving DecidableEq, Repr

def Source.name : Source → String
  | .environment => "EnvSettingsSource"
  | .variableFile => "DotEnvSettingsSource"
  | .ownFile => "SecretsSettingsSource"

/-- The value of the variable that gives a field; of several variables of the same name, as names are
compared, the last counts. -/
def variableFor (o : SourceOptions) (assigned : List (String × Option String)) (f : Field) :
    Option String :=
  (assigned.reverse.find? fun v => o.fold v.1 == o.variableName f.name).bind Prod.snd

/-- Puts a value under a row of keys, each of which leads into the table under the one before.  Null replaces
nothing but an empty table. -/
def putUnder (t : Table Value) : List String → Value → Table Value
  | [], _ => t
  | [key], v =>
    match v, Table.get? t key with
    | .null, some (.table []) | .null, none => Table.put t key v
    | .null, some _ => t
    | _, _ => Table.put t key v
  | key :: keys, v =>
    match Table.get? t key with
    | none => Table.put t key (.table (putUnder [] keys v))
    | some (.table inner) => Table.put t key (.table (putUnder inner keys v))
    | some _ => t

/-- The value of a variable for one entry of a table. -/
def entryValue (o : SourceOptions) (text : Option String) : Value :=
  if text == o.nullText then .null else (text.map Value.text).getD .null

/-- The entries of a table that variables give one by one. -/
def entriesFor (o : SourceOptions) (assigned : List (String × Option String)) (f : Field) :
    Table Value :=
  match o.delimiter with
  | none => []
  | some delimiter =>
    let start := (o.variableName f.name ++ delimiter).toList
    let named := Table.ofEntries (assigned.map fun (name, v) => (o.fold name, v))
    named.foldl (fun t (name, v) =>
      match Text.after? start name.toList with
      | none => t
      | some keys => putUnder t ((String.ofList keys).splitOn delimiter) (entryValue o v)) []

/-- What a source gives for a table, with the entries that it gives one by one. -/
def withEntries (entries : Table Value) (g : Option Given) : Option Given :=
  if entries.isEmpty then g
  else
    match g with
    | none => some (.data (.table entries))
    | some (.data (.table t)) => some (.data (.table (Table.putAll t entries)))
    | some g => some g

/-- What the text of a variable gives for a field: tables are written as JSON, and a JSON null gives
nothing. -/
def givenByText (o : SourceOptions) (source : Source) (f : Field) (text : String) :
    Except Failure (Option Given) :=
  if o.nullText == some text then .ok (some (.data .null))
  else
    match f.type with
    | .names =>
      match Json.parse (some digitLimit) text.toList with
      | .error _ => .error (.badTableText f.name source.name)
      | .ok .null => .ok none
      | .ok v => .ok (some (.data v))
    | _ => .ok (some (.data (.text text)))

/-- The first failure among the fields, if there is one. -/
def firstFailure? {α : Type} (results : Field → Except Failure α) : Option Failure :=
  Field.all.findSome? fun f =>
    match results f with
    | .error e => some e
    | .ok _ => none

/-- The layer of a source that gives a text for some fields. -/
def Layer.ofTexts (o : SourceOptions) (source : Source) (texts : Field → Option String) :
    Except Failure Layer :=
  let results := fun f =>
    match texts f with
    | none => .ok none
    | some text => givenByText o source f text
  match firstFailure? results with
  | some e => .error e
  | none => .ok fun f => (results f).toOption.join

/-- The layer of a row of variables.  A table whose own variable is set to null has no entries. -/
def Layer.ofVariables (o : SourceOptions) (source : Source)
    (assigned : List (String × Option String)) : Except Failure Layer :=
  let counted := assigned.filter fun v => !(o.skipsEmpty && v.2 == some "")
  (Layer.ofTexts o source (variableFor o counted)).map fun layer f =>
    match f.type, layer f, variableFor o counted f with
    | .names, none, some _ => none
    | .names, g, _ => withEntries (entriesFor o counted f) g
    | _, g, _ => g

/-- The text of a file in the given encoding. -/
def decodedText (platform : Platform) (encoding : String) (bytes : List UInt8) :
    Except Failure (List Char) :=
  match decodeNamed platform encoding bytes with
  | .ok text => .ok (Text.unifyNewlines text)
  | .error (.unusable f) => .error f
  | .error (.undecodable text) => .error (.undecodable text)

namespace Surroundings

def environmentLayer (s : Surroundings) (o : SourceOptions) : Except Failure Layer :=
  Layer.ofVariables o .environment (s.environment.map fun (k, v) => (k, some v))

/-- The path that a text names, with the home directory in place of `~`. -/
def homePath (s : Surroundings) (text : String) : Except Failure Path :=
  match s.expandHome (.ofText text) with
  | .error _ => .error .noHome
  | .ok path =>
    match s.lookFor path with
    | .error fault => .error (.disk fault)
    | .ok _ => .ok path

/-- The variables that a file sets; a file that is not there sets none. -/
def fileVariables (s : Surroundings) (o : SourceOptions) (file : String) :
    Except Failure (List (String × Option String)) := do
  let path ← s.homePath file
  match s.find? path with
  | some (.file bytes) =>
    let text ← decodedText s.platform o.encoding bytes
    return Dotenv.read s.lookup? text
  | _ => return []

/-- The text of the file for a field in a directory, if it is there, without blanks around it. -/
def ownText? (s : Surroundings) (o : SourceOptions) (directory : Path) (f : Field) : Option String :=
  let place := (AbsolutePath.resolve (directory.absolute workDirectory).parts).parts
  let own? := s.disk.entries.find? fun e =>
    e.1.dropLast == place && e.1.getLast?.any fun name => o.fold name == o.variableName f.name
  match own? with
  | some (_, .file bytes) =>
    (Encoding.Utf8.decode bytes).toOption.map fun text => .ofList (Text.trim (Text.unifyNewlines text))
  | _ => none

/-- The layer of the files for single fields; a directory that is not there gives none. -/
def ownFileLayer (s : Surroundings) (o : SourceOptions) : Except Failure Layer := do
  let paths ← o.directories.mapM s.homePath
  let there := paths.filter fun path => (s.find? path).isSome
  match there.find? s.isFile with
  | some _ => .error .noDirectory
  | none =>
    Layer.ofTexts o .ownFile fun f => there.reverse.findSome? fun path => s.ownText? o path f

/-- The layers of all sources but the caller, of which the strongest come first. -/
def layers (s : Surroundings) (o : SourceOptions) : Except Failure (List Layer) := do
  let assigned ← o.files.mapM (s.fileVariables o)
  let environment ← s.environmentLayer o
  let variableFiles ← Layer.ofVariables o .variableFile assigned.flatten
  let ownFiles ← s.ownFileLayer o
  return [environment, variableFiles, ownFiles]

end Surroundings

/-! ## Building settings -/

/-- Settings together with the fields that were given, as opposed to left at their default. -/
structure Loaded where
  settings : Settings
  given : Field → Bool

namespace Loaded

/-- The value of a field: what is given for it, read, or its default. -/
def fieldValue (s : Surroundings) (layer : Layer) (f : Field) : Reading f.type.Carrier :=
  match layer f with
  | none => .ok (Settings.default.get f)
  | some g => Coercion.read s f.type g

/-- The failure of reading a field as a whole, if it fails. -/
def failure? (s : Surroundings) (layer : Layer) (f : Field) : Option Failure :=
  match fieldValue s layer f with
  | .error (.failed e) => some e
  | _ => none

def problems (s : Surroundings) (layer : Layer) (f : Field) : List Problem :=
  match fieldValue s layer f with
  | .error (.refused ps) => ps.map fun (place, refusal) => ⟨f.name :: place, refusal⟩
  | _ => []

/-- The values that a layer gives, under the names of their fields. -/
def givenValues (layer : Layer) : Table Value :=
  Field.all.filterMap fun f => (layer f).map fun g => (f.name, g.value)

def ofLayer (s : Surroundings) (layer : Layer) : Except Failure Loaded :=
  match Field.all.findSome? (failure? s layer) with
  | some e => .error e
  | none =>
    match Field.all.flatMap (problems s layer) with
    | [] =>
      .ok
        { settings := .ofFields fun f => ((fieldValue s layer f).toOption).getD (Settings.default.get f)
          given := fun f => (layer f).isSome }
    | ps => .error (@Failure.refused (s.platform.refused (givenValues layer) ps) (Problem.sorted ps))

/-- The settings that the caller, the other sources and the defaults give. -/
def build (s : Surroundings) (o : SourceOptions) (caller : Layer) : Except Failure Loaded :=
  match s.layers o with
  | .error e => .error e
  | .ok layers => ofLayer s (caller.aboveAll layers)

/-- The settings that the caller gives by a table of fields and options. -/
def ofTable (s : Surroundings) (t : Table Value) : Except Failure Loaded :=
  match SourceOptions.ofTable s.platform t with
  | .error e => .error e
  | .ok o => build s o (.ofTable o t)

/-- All fields of settings, given again. -/
def giveAll (l : Loaded) : Layer := fun f =>
  some (f.type.give (l.settings.get f))

/-- The fields that were given, given again with their values. -/
def giveSet (l : Loaded) : Layer := fun f =>
  if l.given f then some (f.type.give (l.settings.get f)) else none

end Loaded

end Daihon

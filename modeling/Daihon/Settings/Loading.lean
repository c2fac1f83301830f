import Daihon.Config.File

/-!
# Loading settings

Settings are loaded from the environment alone, from one configuration file, or from several files and
overrides.  Each file is loaded on its own, over the environment and the `.env` file, and of the fields
given there a later file's value replaces an earlier one's; files that are missing are reported and
passed over.  Overrides replace what they name.
-/

namespace Daihon

namespace Loaded

/-- The settings of the environment, the `.env` file and the defaults. -/
def fromEnvironment (s : Surroundings) : Except Failure Loaded :=
  build s .usual .empty

/-- The settings of a configuration file over the environment. -/
def fromFile (s : Surroundings) (path : Path) : Except Failure Loaded :=
  match configData s path with
  | .error e => .error e
  | .ok data => ofTable s data

/-- What the files of the given names give, put over what was given before, and a notice for every missing
file. -/
def gather (s : Surroundings) : Layer → List String → Except Failure Layer × List Notice
  | given, [] => (.ok given, [])
  | given, file :: files =>
    match fromFile s (.ofText file) with
    | .ok loaded => gather s (given.update loaded.giveSet) files
    | .error (.missingFile _) =>
      let (result, notices) := gather s given files
      (result, .configMissing file :: notices)
    | .error e => (.error e, [])

/-- Settings with the overrides that are not null in place of the fields they name. -/
def override (s : Surroundings) (l : Loaded) (overrides : Table Value) : Except Failure Loaded :=
  let named := Layer.withoutNull overrides
  if named.isEmpty then .ok l
  else
    match SourceOptions.ofTable s.platform named with
    | .error e => .error e
    | .ok o => build s o (l.giveAll.update (.ofNames named))

def fromSources (s : Surroundings) (files : List String) (overrides : Table Value) :
    Except Failure Loaded × List Notice :=
  match gather s .empty files with
  | (.error e, notices) => (.error e, notices)
  | (.ok given, notices) =>
    match build s .usual given with
    | .error e => (.error e, notices)
    | .ok l => (l.override s overrides, notices)

/-- The names of configuration files that are looked for below the home directory. -/
def homeFiles : List (List String) :=
  [[".config", "vnscript", "config.yaml"], [".config", "vnscript", "config.toml"]]

/-- The names of configuration files that are looked for in the working directory. -/
def workFiles : List String :=
  ["vnscript.yaml", "vnscript.json", "vnscript.toml"]

/-- The places where configuration files are looked for below a home directory and in the working
directory, in increasing strength. -/
def standardPlaces (home : Path) : List Path :=
  (homeFiles.map fun parts => { home with parts := home.parts ++ parts }) ++
    workFiles.map fun name => ⟨"/", workDirectory ++ [name]⟩

/-- The configuration files at the standard places.  A place that cannot be looked up has no file. -/
def standardFiles (s : Surroundings) : Except Failure (List Path) :=
  match s.homeOf [] with
  | .error _ => .error .noHome
  | .ok home => .ok ((standardPlaces home).filter s.isFile)

/-- The settings that hold where nothing else is asked for: those of the files at the standard places,
or of the environment alone. -/
def standard (s : Surroundings) : Except Failure Loaded × List Notice :=
  match standardFiles s with
  | .error e => (.error e, [])
  | .ok [] => (fromEnvironment s, [])
  | .ok paths => fromSources s (paths.map Path.text) []

/-- The settings of one configuration file that must be there, and overrides. -/
def fromNamedFile (s : Surroundings) (path : Path) (overrides : Table Value) :
    Except Failure Loaded × List Notice :=
  match s.lookFor path with
  | .error fault => (.error (.disk fault), [])
  | .ok (some _) => fromSources s [path.text] overrides
  | .ok none => (.error (.missingFile ("Config file not found: " ++ path.text)), [])

end Loaded

end Daihon

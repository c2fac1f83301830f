import Daihon.Failure
import Daihon.Text.Case

/-!
# How the sources of settings are read

Besides fields the caller may say how the other sources are read: by which names and from which files the
variables come, and what their values mean.
-/

namespace Daihon

/-- What may be said about the sources of settings. -/
structure SourceOptions where
  /-- Whether names must be written in exactly the same case. -/
  isCaseSensitive : Bool := false
  /-- What the names of variables start with. -/
  start : String := "VNSCRIPT_"
  /-- The files of variables, in increasing strength. -/
  files : List String := [".env"]
  /-- The encoding of the files of variables. -/
  encoding : String := "utf-8"
  /-- Whether an empty variable counts as unset. -/
  skipsEmpty : Bool := false
  /-- The text of a variable that stands for null. -/
  nullText : Option String := none
  /-- The directories with a file for each field, in increasing strength. -/
  directories : List String := []
  /-- What stands between the name of a table and a key in the name of a variable for one entry. -/
  delimiter : Option String := none
  deriving Repr

namespace SourceOptions

/-- The options that hold if the caller says nothing. -/
def usual : SourceOptions := {}

/-- A name as it is compared. -/
def fold (o : SourceOptions) (name : String) : String :=
  if o.isCaseSensitive then name else Text.lower name

/-- The name of the variable that gives a field, as it is compared. -/
def variableName (o : SourceOptions) (field : String) : String :=
  o.fold (o.start ++ field)

/-- The value said under a name; null says nothing. -/
def said? (t : Table Value) (name : String) : Option Value :=
  match Table.get? t name with
  | some .null | none => none
  | some v => some v

/-- What is said to be true or false; any value will do. -/
def flagSaid (t : Table Value) (name : String) : Bool :=
  (said? t name).any fun v => !v.isEmpty

section Said

variable (platform : Platform) (t : Table Value) (name : String)

def textSaid (usual : String) : Except Failure String :=
  match said? t name with
  | none => .ok usual
  | some (.text s) => .ok s
  | some v => .error (.badOption (platform.badOption name v))

def allTexts (vs : List Value) : Except Failure (List String) :=
  vs.mapM fun v =>
    match v with
    | .text s => .ok s
    | v => .error (.badOption (platform.badOption name v))

/-- The paths that a value gives: one, or several. -/
def paths (v : Value) : Except Failure (List String) :=
  match v with
  | .text s => .ok [s]
  | .list vs | .set vs => allTexts platform name vs
  | .pair a b => allTexts platform name [a, b]
  | v =>
    match v.isEmpty, v with
    | true, .bytes _ => .ok []
    | _, .table t => .ok (Table.keys t)
    | _, v => .error (.badOption (platform.badOption name v))

/-- The files of variables that are said; null says that there are none. -/
def filesSaid : Except Failure (List String) :=
  match Table.get? t name with
  | none => .ok usual.files
  | some .null => .ok []
  | some v => paths platform name v

/-- The encoding that is said; what counts as nothing says UTF-8. -/
def encodingSaid : Except Failure String :=
  match said? t name with
  | some v => if v.isEmpty then .ok usual.encoding else textSaid platform t name usual.encoding
  | none => .ok usual.encoding

def directoriesSaid : Except Failure (List String) :=
  match said? t name with
  | none => .ok []
  | some v => paths platform name v

end Said

/-- The options among the values that the caller gives. -/
def ofTable (platform : Platform) (t : Table Value) : Except Failure SourceOptions := do
  let start ← textSaid platform t "_env_prefix" usual.start
  let files ← filesSaid platform t "_env_file"
  let encoding ← encodingSaid platform t "_env_file_encoding"
  let directories ← directoriesSaid platform t "_secrets_dir"
  return {
    isCaseSensitive := flagSaid t "_case_sensitive"
    start, files, encoding
    skipsEmpty := flagSaid t "_env_ignore_empty"
    nullText :=
      match said? t "_env_parse_none_str" with
      | some (.text s) => some s
      | _ => none
    directories
    delimiter :=
      match said? t "_env_nested_delimiter" with
      | some (.text s) => if s.isEmpty then none else some s
      | _ => none }

end SourceOptions

end Daihon

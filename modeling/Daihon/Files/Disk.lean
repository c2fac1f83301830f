import Daihon.Encoding.Utf8
import Daihon.Files.Path
import Daihon.Platform

/-!
# The file tree and the environment

A file tree is a table of entries under their paths from the root.  A path leads to a place if every
part before the last is a directory; a double dot leads to the directory above.  What stands in the way
of a path is told apart by its cause.
-/

namespace Daihon

inductive Entry where
  | file (bytes : List UInt8)
  | directory
  deriving DecidableEq

/-- What stands in the way of an operation on files. -/
inductive DiskError where
  /-- Nothing is there. -/
  | missing
  /-- Something is there already. -/
  | occupied
  /-- A part of the path is no directory. -/
  | notDirectory
  /-- A directory stands where a file is needed. -/
  | isDirectory
  /-- The path or a name in it is too long. -/
  | longName
  /-- A null character stands in the path. -/
  | nullCharacter
  deriving DecidableEq, Repr

/-- A failed operation on files: its cause, and the path at which it failed. -/
structure DiskFault where
  error : DiskError
  path : Path
  deriving DecidableEq, Repr

/-- A file tree: entries under the parts of their paths. -/
structure Disk where
  entries : List (List String × Entry)

namespace Disk

/-- The entry with exactly these parts; the root is a directory. -/
def get? (d : Disk) (parts : List String) : Option Entry :=
  if parts.isEmpty then some .directory
  else (d.entries.find? fun e => e.1 == parts).map Prod.snd

/-- The greatest length of a name in a directory, in bytes. -/
def nameLimit : Nat := 255

/-- The place that `parts` lead to from the directory `base`; nothing need stand there yet. -/
def place (d : Disk) (base : List String) : List String → Except DiskError (List String)
  | [] => .ok base
  | p :: ps =>
    match d.get? base with
    | none => .error .missing
    | some (.file _) => .error .notDirectory
    | some .directory =>
      if nameLimit < p.utf8ByteSize then .error .longName
      else place d (if p == ".." then base.dropLast else base ++ [p]) ps

/-- Makes `parts` lead to `e`. -/
def put (d : Disk) (parts : List String) (e : Entry) : Disk :=
  ⟨d.entries.filter (fun old => !(old.1 == parts)) ++ [(parts, e)]⟩

def erase (d : Disk) (parts : List String) : Disk :=
  ⟨d.entries.filter fun e => !(e.1 == parts)⟩

end Disk

def workDirectory : List String := ["work"]

def homeDirectory : List String := ["home"]

/-- The text of the path of the home directory. -/
def homeText : String := "/" ++ "/".intercalate homeDirectory

def homeVariable : String := "HOME"

/-- What the program finds around it: a file tree, the variables of the environment, in the order in
which they were set, and the platform. -/
structure Surroundings where
  disk : Disk
  environment : List (String × String)
  platform : Platform := {}

namespace Surroundings

/-- An empty working directory and an empty home directory, and no variables besides. -/
def empty : Surroundings where
  disk := ⟨[(workDirectory, .directory), (homeDirectory, .directory)]⟩
  environment := [(homeVariable, homeText)]

/-- The greatest length of the text of a path, in bytes. -/
def pathLimit : Nat := 4095

/-- The place that a path leads to from the working directory. -/
def place (s : Surroundings) (path : Path) : Except DiskError (List String) :=
  if path.hasNull then .error .nullCharacter
  else if pathLimit < path.text.utf8ByteSize then .error .longName
  else s.disk.place [] (path.absolute workDirectory).parts

/-- The entry that a path leads to from the working directory. -/
def find? (s : Surroundings) (path : Path) : Option Entry :=
  match s.place path with
  | .ok parts => s.disk.get? parts
  | .error _ => none

/-- The entry that a path leads to, if there is one; a path that is too long is an error. -/
def lookFor (s : Surroundings) (path : Path) : Except DiskFault (Option Entry) :=
  match s.place path with
  | .error .longName => .error ⟨.longName, path⟩
  | _ => .ok (s.find? path)

def isFile (s : Surroundings) (path : Path) : Bool :=
  match s.find? path with
  | some (.file _) => true
  | _ => false

def isDirectory (s : Surroundings) (path : Path) : Bool :=
  s.find? path == some .directory

def lookup? (s : Surroundings) (name : String) : Option String :=
  (s.environment.find? fun v => v.1 == name).map Prod.snd

end Surroundings

end Daihon

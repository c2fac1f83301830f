import Daihon.Files.Disk

/-!
# Changing the file tree

Directories and files are made where their paths lead.  A directory is made with those above it that are
missing; a file is made in a directory that is there, and only files are removed.

* `Surroundings.disk_putFile` says what a file that has been written leads to: its path has an entry, and
  every other place keeps its own.
-/

namespace Daihon

namespace Disk

theorem get?_put_self (d : Disk) {parts : List String} (e : Entry) (h : parts.isEmpty = false) :
    (d.put parts e).get? parts = some e := by
  have hnone : (d.entries.filter fun old => !(old.1 == parts)).find? (fun e => e.1 == parts) = none := by
    simp [List.find?_eq_none]
  simp [get?, put, h, List.find?_append, hnone]

theorem get?_put_of_ne (d : Disk) {parts other : List String} (e : Entry) (h : other ≠ parts) :
    (d.put parts e).get? other = d.get? other := by
  have hp : (parts == other) = false := by simp [Ne.symm h]
  have hfind : (d.entries.filter fun old => !(old.1 == parts)).find? (fun e => e.1 == other) =
      d.entries.find? fun e => e.1 == other := by
    induction d.entries with
    | nil => rfl
    | cons old es ih =>
      by_cases ho : old.1 = parts
      · simp [ho, hp, ih]
      · by_cases hq : old.1 = other <;> simp [ho, hq, h, ih]
  simp [get?, put, List.find?_append, hfind, hp]

end Disk

namespace Surroundings

def put (s : Surroundings) (parts : List String) (e : Entry) : Surroundings :=
  { s with disk := s.disk.put parts e }

def makeDirectory (s : Surroundings) (path : Path) : Except DiskFault Surroundings :=
  match s.place path with
  | .error e => .error ⟨e, path⟩
  | .ok parts =>
    if (s.disk.get? parts).isSome then .error ⟨.occupied, path⟩
    else .ok (s.put parts .directory)

def needDirectory (s : Surroundings) (path : Path) : Except DiskFault Surroundings :=
  match s.makeDirectory path with
  | .ok s => .ok s
  | .error fault => if s.isDirectory path then .ok s else .error fault

/-- Makes the directory with the parts in `reversed`, last part first, and those above it that are
missing. -/
def needAll (s : Surroundings) (root : String) : List String → Except DiskFault Surroundings
  | [] => .ok s
  | part :: above =>
    let path : Path := ⟨root, (part :: above).reverse⟩
    match s.needDirectory path with
    | .error ⟨.missing, _⟩ =>
      match needAll s root above with
      | .error fault => .error fault
      | .ok s => s.needDirectory path
    | result => result

/-- Makes the directory above a path, and those above that one, where they are missing. -/
def makeParents (s : Surroundings) (path : Path) : Except DiskFault Surroundings :=
  s.needAll path.root path.parent.parts.reverse

/-- The place and the bytes of the file that a path leads to; a file that is not there is empty. -/
def openFile (s : Surroundings) (path : Path) : Except DiskFault (List String × List UInt8) :=
  match s.place path with
  | .error e => .error ⟨e, path⟩
  | .ok parts =>
    match s.disk.get? parts with
    | some .directory => .error ⟨.isDirectory, path⟩
    | some (.file bytes) => .ok (parts, bytes)
    | none => .ok (parts, [])

/-- Makes a file that is not there, and leaves one that is as it is. -/
def needFile (s : Surroundings) (path : Path) : Except DiskFault Surroundings :=
  (s.openFile path).map fun (parts, bytes) => s.put parts (.file bytes)

def putFile (s : Surroundings) (path : Path) (bytes : List UInt8) : Except DiskFault Surroundings :=
  (s.openFile path).map fun (parts, _) => s.put parts (.file bytes)

def removeFile (s : Surroundings) (path : Path) : Except DiskFault Surroundings :=
  match s.place path with
  | .error e => .error ⟨e, path⟩
  | .ok parts =>
    match s.disk.get? parts with
    | none => .error ⟨.missing, path⟩
    | some .directory => .error ⟨.isDirectory, path⟩
    | some (.file _) => .ok { s with disk := s.disk.erase parts }

/-- A file that has been written stands at the place of its path, and every other place keeps its
entry. -/
theorem disk_putFile {s t : Surroundings} {path : Path} {bytes : List UInt8}
    (h : s.putFile path bytes = .ok t) :
    ∃ parts, s.place path = .ok parts ∧ t.disk.get? parts = some (.file bytes) ∧
      ∀ other, other ≠ parts → t.disk.get? other = s.disk.get? other := by
  unfold putFile openFile at h
  split at h
  · simp [Except.map] at h
  · rename_i parts hplace
    refine ⟨parts, hplace, ?_⟩
    have hroot : s.disk.get? parts ≠ some .directory → parts.isEmpty = false := by
      intro hne
      cases hc : parts.isEmpty with
      | false => rfl
      | true => simp [Disk.get?, hc] at hne
    split at h <;> simp only [Except.map, Except.ok.injEq, reduceCtorEq] at h
    all_goals
      rename_i hentry
      subst h
      exact ⟨Disk.get?_put_self _ _ (hroot (by simp [hentry])),
        fun other hne => Disk.get?_put_of_ne _ _ hne⟩

end Surroundings

end Daihon

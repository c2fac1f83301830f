/-!
# Paths

A path is a root and a row of parts.  Reading a path drops empty parts and single dots and keeps
double dots; a resolved path is absolute and has neither.
-/

namespace Daihon

def slashParts : List Char → List (List Char)
  | [] => [[]]
  | c :: s =>
    if c = '/' then [] :: slashParts s
    else
      match slashParts s with
      | [] => [[c]]
      | p :: ps => (c :: p) :: ps

/-- A path, relative unless it has a root. -/
structure Path where
  root : String
  parts : List String
  deriving DecidableEq, Repr

namespace Path

def ofText (s : String) : Path :=
  let parts := (slashParts s.toList).map String.ofList
  let root :=
    match s.toList with
    | '/' :: '/' :: '/' :: _ => "/"
    | '/' :: '/' :: _ => "//"
    | '/' :: _ => "/"
    | _ => ""
  ⟨root, parts.filter fun p => !(p.isEmpty || p == ".")⟩

/-- The text of a path; the empty relative path is a dot. -/
def text (p : Path) : String :=
  if p.root.isEmpty && p.parts.isEmpty then "." else p.root ++ "/".intercalate p.parts

def isAbsolute (p : Path) : Bool :=
  !p.root.isEmpty

/-- `p` as seen from the directory with parts `base`. -/
def absolute (base : List String) (p : Path) : Path :=
  if p.isAbsolute then p else ⟨"/", base ++ p.parts⟩

/-- The path of the directory above; that of a path without parts is the path itself. -/
def parent (p : Path) : Path :=
  { p with parts := p.parts.dropLast }

def hasNull (p : Path) : Bool :=
  p.parts.any fun part => part.toList.contains '\x00'

def name (p : Path) : String :=
  p.parts.getLast?.getD ""

/-- The part of a file name from its last dot on; empty if that dot is the first or the last
character or if there is none. -/
def suffixOf (name : List Char) : List Char :=
  let tail := (name.reverse.takeWhile fun c => c != '.').reverse
  let head := name.take (name.length - tail.length - 1)
  if tail.length = name.length || tail.isEmpty || head.isEmpty then [] else '.' :: tail

def suffix (p : Path) : String :=
  .ofList (suffixOf p.name.toList)

end Path

/-- Whether a part names an entry of a directory. -/
def isProperPart (p : String) : Bool :=
  !(p.isEmpty || p == "." || p == "..")

/-- An absolute path without dots. -/
structure AbsolutePath where
  parts : List String
  proper : parts.all isProperPart = true

namespace AbsolutePath

def text (p : AbsolutePath) : String :=
  "/" ++ "/".intercalate p.parts

/-- Follows `parts` from the directory with the parts in `done`, reversed; a double dot goes up, and
stays at the root. -/
def follow (done : List String) : List String → List String
  | [] => done
  | p :: ps =>
    if p == ".." then follow done.tail ps
    else if isProperPart p then follow (p :: done) ps
    else follow done ps

theorem all_follow (done ps : List String) (h : done.all isProperPart = true) :
    (follow done ps).all isProperPart = true := by
  induction ps generalizing done with
  | nil => exact h
  | cons p ps ih =>
    unfold follow
    split
    · apply ih
      cases done with
      | nil => rfl
      | cons d ds => simp_all
    · split
      · apply ih
        simp_all
      · exact ih done h

/-- The path that `parts` lead to from the root. -/
def resolve (parts : List String) : AbsolutePath :=
  ⟨(follow [] parts).reverse, by
    rw [List.all_reverse]
    exact all_follow [] parts rfl⟩

theorem follow_proper (done ps : List String) (h : ps.all isProperPart = true) :
    follow done ps = ps.reverse ++ done := by
  induction ps generalizing done with
  | nil => rfl
  | cons p ps ih =>
    simp only [List.all_cons, Bool.and_eq_true] at h
    have hp : (p == "..") = false := by
      have := h.1
      simp only [isProperPart, Bool.not_eq_true', Bool.or_eq_false_iff] at this
      exact this.2
    unfold follow
    simp [hp, h.1, ih _ h.2]

/-- Resolving a resolved path changes nothing. -/
theorem resolve_parts (p : AbsolutePath) : resolve p.parts = p := by
  obtain ⟨parts, h⟩ := p
  simp [resolve, follow_proper [] parts h]

end AbsolutePath

end Daihon

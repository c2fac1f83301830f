import Daihon.Files.Disk

/-!
# Variables and the home directory in paths

In the text of a path `$NAME` and `$` with a name in braces stand for the value of a variable; what
names no variable is left as it is.  A path that starts with `~` starts at the home directory, which the
variable `HOME` names, and one that starts with `~` and a name at the home directory of that user.
-/

namespace Daihon

/-- Whether `c` may stand in the name of a variable. -/
def isVariableChar (c : Char) : Bool :=
  c.isAlphanum || c == '_'

/-- Replaces the variables in a text, with at most `fuel` characters to go. -/
def expandVariables (lookup : String → Option String) : Nat → List Char → List Char
  | 0, s => s
  | _, [] => []
  | fuel + 1, c :: s =>
    if c ≠ '$' then c :: expandVariables lookup fuel s
    else
      match s with
      | '{' :: r =>
        let name := r.takeWhile fun c => c != '}'
        match r.dropWhile fun c => c != '}' with
        | '}' :: rest =>
          match lookup (.ofList name) with
          | some value => value.toList ++ expandVariables lookup fuel rest
          | none => '$' :: '{' :: name ++ '}' :: expandVariables lookup fuel rest
        | _ => c :: expandVariables lookup fuel s
      | _ =>
        let name := s.takeWhile isVariableChar
        let rest := s.dropWhile isVariableChar
        if name.isEmpty then c :: expandVariables lookup fuel s
        else
          match lookup (.ofList name) with
          | some value => value.toList ++ expandVariables lookup fuel rest
          | none => c :: name ++ expandVariables lookup fuel rest

inductive PathError where
  /-- The home directory is not known. -/
  | noHome
  /-- A null character stands in the path. -/
  | nullCharacter
  deriving DecidableEq, Repr

/-- The home directories of the users that a system always has. -/
def userHomes : List (String × String) :=
  [("root", "/root"), ("daemon", "/usr/sbin"), ("games", "/usr/games"), ("mail", "/var/mail"),
    ("news", "/var/spool/news"), ("backup", "/var/backups"), ("www-data", "/var/www"),
    ("nobody", "/nonexistent")]

/-- The home directory of a user, if it is known. -/
def userHome? (name : String) : Option String :=
  (userHomes.find? fun u => u.1 == name).map Prod.snd

/-- The text without slashes at its end; a slash if nothing is left. -/
def withoutEndSlashes (s : String) : String :=
  let rest := (s.toList.reverse.dropWhile fun c => c == '/').reverse
  if rest.isEmpty then "/" else .ofList rest

namespace Surroundings

/-- The home directory that `~` with the name of a user stands for; without a name it is one's own. -/
def homeOf (s : Surroundings) (user : List Char) : Except PathError Path :=
  let home? :=
    if user.isEmpty then some ((s.lookup? homeVariable).getD "/root") else userHome? (.ofList user)
  match home? with
  | none => .error .noHome
  | some home =>
    let home := withoutEndSlashes home
    if home.toList.head? == some '~' then .error .noHome else .ok (.ofText home)

/-- A path with a leading `~` replaced by the home directory. -/
def expandHome (s : Surroundings) (p : Path) : Except PathError Path :=
  if p.isAbsolute then .ok p
  else
    match p.parts with
    | [] => .ok p
    | first :: rest =>
      match first.toList with
      | '~' :: user => (s.homeOf user).map fun home => { home with parts := home.parts ++ rest }
      | _ => .ok p

/-- The absolute path that the text of a path leads to. -/
def resolve (s : Surroundings) (text : String) : Except PathError AbsolutePath :=
  let chars := text.toList
  let expanded := expandVariables s.lookup? chars.length chars
  match s.expandHome (.ofText (.ofList expanded)) with
  | .error e => .error e
  | .ok p =>
    if p.hasNull then .error .nullCharacter
    else .ok (.resolve (p.absolute workDirectory).parts)

end Surroundings

end Daihon

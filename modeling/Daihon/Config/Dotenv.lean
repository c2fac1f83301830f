import Daihon.Files.Expansion
import Daihon.Text.Blank
import Daihon.Value.Basic

/-!
# Files of variables

A file of variables has lines `NAME=value`, perhaps with `export` in front.  A value stands in single
or double quotes, with backslash escapes, or runs to the end of the line or to a comment.  A line that
does not fit is passed over.  Later, `$` with a name in braces is replaced by the value of the
variable, and by a default or nothing if there is none.
-/

namespace Daihon.Dotenv

def isBreak (c : Char) : Bool :=
  c == '\n' || c == '\r'

def isGap (c : Char) : Bool :=
  Text.isBlank c && !isBreak c

def skipGap (s : List Char) : List Char :=
  s.dropWhile isGap

/-- Drops the rest of the line with its end. -/
def skipLine (s : List Char) : List Char :=
  match s.dropWhile fun c => !isBreak c with
  | '\r' :: '\n' :: r => r
  | _ :: r => r
  | [] => []

def skipExport (s : List Char) : List Char :=
  match s with
  | 'e' :: 'x' :: 'p' :: 'o' :: 'r' :: 't' :: r =>
    match r with
    | c :: _ => if isGap c then skipGap r else s
    | [] => s
  | _ => s

/-- A text up to the given quote, and what follows the quote.  A backslash keeps a quote from ending
the text, unless no other quote ends it. -/
def quotedBody? (quote : Char) : List Char → Option (List Char × List Char)
  | [] => none
  | [c] => if c = quote then some ([], []) else none
  | c :: d :: s =>
    if c = quote then some ([], d :: s)
    else if c = '\\' && d = quote then
      match quotedBody? quote s with
      | some (b, r) => some (c :: d :: b, r)
      | none => some ([c], s)
    else (quotedBody? quote (d :: s)).map fun (b, r) => (c :: b, r)

def singleEscape? (c : Char) : Option Char :=
  if c = '\\' then some c
  else if c.toNat = 39 then some c
  else none

def doubleEscape? (c : Char) : Option Char :=
  match c with
  | '\\' => some '\\'
  | '"' => some '"'
  | 'a' => some '\x07'
  | 'b' => some '\x08'
  | 'f' => some '\x0c'
  | 'n' => some '\n'
  | 'r' => some '\r'
  | 't' => some '\t'
  | 'v' => some '\x0b'
  | c => if c.toNat = 39 then some c else none

/-- Replaces escapes; a backslash before anything else stays. -/
def unescape (escape? : Char → Option Char) : List Char → List Char
  | [] => []
  | [c] => [c]
  | c :: e :: s =>
    if c = '\\' then
      match escape? e with
      | some d => d :: unescape escape? s
      | none => c :: unescape escape? (e :: s)
    else c :: unescape escape? (e :: s)

/-- An unquoted value without the comment that a blank and `#` start. -/
def withoutComment : List Char → List Char
  | [] => []
  | c :: s =>
    if Text.isBlank c && (s.dropWhile Text.isBlank).head? == some '#' then []
    else c :: withoutComment s

/-- The value at the start of `s`, and what follows it. -/
def value? (s : List Char) : Option (List Char × List Char) :=
  match s with
  | [] => some ([], [])
  | c :: r =>
    if c.toNat = 39 then
      (quotedBody? c r).map fun (b, r) => (unescape singleEscape? b, r)
    else if c = '"' then
      (quotedBody? c r).map fun (b, r) => (unescape doubleEscape? b, r)
    else
      some
        (Text.dropEndWhile Text.isBlank (withoutComment (s.takeWhile fun c => !isBreak c)),
          s.dropWhile fun c => !isBreak c)

/-- What follows a comment and the end of the line, if nothing else stands there. -/
def endOfLine? (s : List Char) : Option (List Char) :=
  let r := skipGap s
  let r := if r.head? == some '#' then r.dropWhile fun c => !isBreak c else r
  match r with
  | [] => some []
  | '\r' :: '\n' :: r => some r
  | c :: r => if isBreak c then some r else none

/-- The name at the start of `s`, and what follows it; the name is empty before a comment. -/
def name? (s : List Char) : Option (List Char × List Char) :=
  match s with
  | [] => none
  | c :: r =>
    if c = '#' then some ([], s)
    else if c.toNat = 39 then
      let name := r.takeWhile fun d => d != c
      match r.dropWhile fun d => d != c with
      | [] => none
      | _ :: rest => if name.isEmpty then none else some (name, rest)
    else
      let ends := fun c => c == '=' || c == '#' || Text.isBlank c
      let name := s.takeWhile fun c => !ends c
      if name.isEmpty then none else some (name, s.dropWhile fun c => !ends c)

/-- One binding of a name to a value, which may be missing. -/
abbrev Binding := String × Option String

/-- The binding at the start of a line, if the line gives one, and what follows the line. -/
def binding (s : List Char) : Option Binding × List Char :=
  match name? (skipExport s) with
  | none => (none, skipLine s)
  | some (name, r) =>
    let r := skipGap r
    match r with
    | '=' :: r =>
      match value? (skipGap r) with
      | none => (none, skipLine r)
      | some (v, r) =>
        match endOfLine? r with
        | none => (none, skipLine r)
        | some rest =>
          (if name.isEmpty then none else some (.ofList name, some (.ofList v)), rest)
    | _ =>
      match endOfLine? r with
      | none => (none, skipLine r)
      | some rest => (if name.isEmpty then none else some (.ofList name, none), rest)

/-- The bindings of a text, with at most `fuel` lines. -/
def bindings : Nat → List Char → List Binding
  | 0, _ => []
  | fuel + 1, s =>
    match s.dropWhile Text.isBlank with
    | [] => []
    | r =>
      let (b, rest) := binding r
      b.toList ++ bindings fuel rest

/-- Replaces the variables in a value, with at most `fuel` characters to go. -/
def interpolate (lookup : String → Option String) : Nat → List Char → List Char
  | 0, s => s
  | _, [] => []
  | fuel + 1, c :: s =>
    match c, s with
    | '$', '{' :: r =>
      let name := r.takeWhile fun c => c != '}' && c != ':'
      match r.dropWhile fun c => c != '}' && c != ':' with
      | '}' :: rest => ((lookup (.ofList name)).getD "").toList ++ interpolate lookup fuel rest
      | ':' :: '-' :: d =>
        match d.dropWhile fun c => c != '}' with
        | '}' :: rest =>
          let default := String.ofList (d.takeWhile fun c => c != '}')
          ((lookup (.ofList name)).getD default).toList ++ interpolate lookup fuel rest
        | _ => c :: interpolate lookup fuel s
      | _ => c :: interpolate lookup fuel s
    | _, _ => c :: interpolate lookup fuel s

/-- Binds each name to its value with variables replaced: those of earlier bindings first, then those
around. -/
def resolve (around : String → Option String) (done : Table (Option String)) :
    List Binding → Table (Option String)
  | [] => done
  | (name, v) :: bs =>
    let lookup := fun name =>
      match Table.get? done name with
      | some v => some (v.getD "")
      | none => around name
    let v := v.map fun v => String.ofList (interpolate lookup v.length v.toList)
    resolve around (Table.put done name v) bs

/-- The variables that a text sets. -/
def read (around : String → Option String) (text : List Char) : Table (Option String) :=
  resolve around [] (bindings (text.length + 1) text)

end Daihon.Dotenv

import Daihon.Value.Fault

/-!
# Tokens of YAML

A text is read from left to right through a cursor, which counts characters, lines and columns.  A byte
order mark takes up no column.  Which characters may stand in a text, break a line or end a word is as in
chapter 5 of YAML 1.1.  Tokens are the marks of the structure, the properties of nodes and the
scalars; where the text cannot be read on, a last token tells why.
-/

namespace Daihon.Yaml

/-- A line that stands in front of a document and tells how to read it. -/
inductive Directive where
  | version (major : Nat)
  /-- What the handle of a tag stands for. -/
  | handle (name start : String)
  | other
  deriving DecidableEq, Repr

inductive ScalarForm where
  | plain
  | quoted
  /-- In quotes, with surrogates that belong to no character. -/
  | broken
  deriving DecidableEq, Repr

inductive Token where
  | directive (d : Directive)
  | documentStart
  | documentEnd
  | blockList
  | blockMapping
  | blockEnd
  | flowListStart
  | flowListEnd
  | flowMappingStart
  | flowMappingEnd
  /-- The dash of an item. -/
  | dash
  | comma
  | key
  | value
  | alias (name : String)
  | anchor (name : String)
  | tag (handle : Option String) (suffix : String)
  | scalar (form : ScalarForm) (text : List Char)
  /-- The text cannot be read on. -/
  | fault (f : DataFault)
  deriving DecidableEq, Repr

/-! ## Characters -/

def isBreak (c : Char) : Bool :=
  c == '\n' || c == '\x85' || c == '\u2028' || c == '\u2029'

def isGap (c : Char) : Bool :=
  c == ' ' || c == '\t'

/-- Whether a word ends before what follows: at the end, a blank or the end of the line. -/
def endsWord (c : Option Char) : Bool :=
  c.all fun c => isGap c || isBreak c

/-- Whether a line of structure ends before what follows: at the end, a space or the end of the line. -/
def endsField (c : Option Char) : Bool :=
  c.all fun c => c == ' ' || isBreak c

/-- Whether nothing more stands in the line. -/
def endsLine (c : Option Char) : Bool :=
  c.all isBreak

def isNameChar (c : Char) : Bool :=
  c.isAlphanum || c == '-' || c == '_'

/-- Whether `c` may stand in a text at all. -/
def isAllowed (c : Char) : Bool :=
  let n := c.toNat
  n == 9 || n == 10 || n == 13 || (32 ≤ n && n ≤ 126) || n == 0x85 ||
    (0xA0 ≤ n && n != 0xFFFE && n != 0xFFFF)

/-! ## The cursor -/

/-- The text that is left, and how much of it has been passed: in all, in lines, and in the line. -/
structure Cursor where
  rest : List Char
  index : Nat := 0
  line : Nat := 0
  column : Nat := 0

namespace Cursor

def peek (p : Cursor) : Option Char :=
  p.rest.head?

def isAtEnd (p : Cursor) : Bool :=
  p.rest.isEmpty

/-- The character at a distance from the next one. -/
def peekAt (p : Cursor) (n : Nat) : Option Char :=
  p.rest[n]?

def next (p : Cursor) : Cursor :=
  match p.rest with
  | [] => p
  | c :: r =>
    if isBreak c then ⟨r, p.index + 1, p.line + 1, 0⟩
    else ⟨r, p.index + 1, p.line, if c = '\uFEFF' then p.column else p.column + 1⟩

def advance (p : Cursor) : Nat → Cursor
  | 0 => p
  | n + 1 => p.next.advance n

/-- The longest row of characters that satisfy `f`. -/
def row (f : Char → Bool) (p : Cursor) : List Char :=
  p.rest.takeWhile f

def skip (f : Char → Bool) (p : Cursor) : Cursor :=
  p.advance (p.row f).length

def skipSpaces (p : Cursor) : Cursor :=
  p.skip fun c => c == ' '

def skipSpacesTo (column : Nat) (p : Cursor) : Cursor :=
  p.advance (min (column - p.column) (p.row fun c => c == ' ').length)

def skipLine (p : Cursor) : Cursor :=
  p.skip fun c => !isBreak c

def skipComment (p : Cursor) : Cursor :=
  if p.peek == some '#' then p.skipLine else p

/-- The end of a line that stands here, and what follows it.  The separators of Unicode stand for
themselves, and any other end is a line feed. -/
def break? (p : Cursor) : Option (Char × Cursor) :=
  match p.peek with
  | some c =>
    if c == '\u2028' || c == '\u2029' then some (c, p.next)
    else if isBreak c then some ('\n', p.next)
    else none
  | none => none

/-- Passes the end of a line, if it stands here. -/
def skipBreak (p : Cursor) : Cursor :=
  (p.break?.map Prod.snd).getD p

/-- Whether three dashes or three dots stand here by themselves. -/
def isAtMarker (p : Cursor) : Bool :=
  (p.rest.take 3 == ['-', '-', '-'] || p.rest.take 3 == ['.', '.', '.']) && endsWord (p.peekAt 3)

end Cursor

end Daihon.Yaml

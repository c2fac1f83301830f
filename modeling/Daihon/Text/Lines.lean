import Daihon.Text.Search

/-!
# Lines of a text

A text is cut at line feeds only.  One empty last piece is dropped, so that a final line feed does
not start a line, and one trailing carriage return is removed from each line.  Other line
separators stay inside the line they appear in.  The writers put lines back together; reading what
they wrote gives the lines.
-/

namespace Daihon.Text

/-- The pieces of `s` between its line feeds; there is always one more piece than line feeds. -/
def pieces : List Char → List (List Char)
  | [] => [[]]
  | c :: s =>
    if c = '\n' then [] :: pieces s
    else
      match pieces s with
      | [] => [[c]]
      | p :: ps => (c :: p) :: ps

/-- `line` without one carriage return at its end. -/
def dropReturn (line : List Char) : List Char :=
  if line.getLast? = some '\r' then line.dropLast else line

def dropEmptyLast (ps : List (List Char)) : List (List Char) :=
  if ps.getLast? = some [] then ps.dropLast else ps

def lines (s : List Char) : List (List Char) :=
  (dropEmptyLast (pieces s)).map dropReturn

def splitLines (s : String) : List String :=
  (lines s.toList).map String.ofList

/-- The two ways to end a line. -/
inductive Ending where
  | lineFeed
  | returnLineFeed
  deriving DecidableEq, Repr

def Ending.chars : Ending → List Char
  | .lineFeed => ['\n']
  | .returnLineFeed => ['\r', '\n']

/-- Writes each line followed by the ending chosen for it. -/
def writeLines (ls : List (List Char × Ending)) : List Char :=
  ls.flatMap fun (line, ending) => line ++ ending.chars

/-- Writes each line followed by a line feed. -/
def unlines (ls : List (List Char)) : List Char :=
  ls.flatMap (· ++ ['\n'])

/-- The lines with a line feed between each two of them. -/
def joinLines : List (List Char) → List Char
  | [] => []
  | [line] => line
  | line :: ls => line ++ '\n' :: joinLines ls

/-- Turns every carriage return with line feed, and every lone carriage return, into one line
feed. -/
def unifyNewlines : List Char → List Char
  | [] => []
  | '\r' :: '\n' :: s => '\n' :: unifyNewlines s
  | c :: s => (if c = '\r' then '\n' else c) :: unifyNewlines s

/-- Turns a position that may count from the end into one in `0..size`: a negative position counts
from the end, and what lies outside is moved to the nearer end. -/
def clampPosition (size : Nat) (i : Int) : Nat :=
  if i < 0 then (i + size).toNat else min i.toNat size

/-- The part of `xs` from position `start` up to, not including, position `stop`. -/
def slice {α : Type} (xs : List α) (start : Int) (stop : Option Int) : List α :=
  let first := clampPosition xs.length start
  let last := (stop.map (clampPosition xs.length)).getD xs.length
  (xs.drop first).take (last - first)

end Daihon.Text

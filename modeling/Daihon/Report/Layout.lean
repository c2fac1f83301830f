import Daihon.Text.Blank
import Daihon.Text.Lines
import Daihon.Text.Width

/-!
# Layout

Text is laid out in a field of a given width.  It is cut at line feeds, tabs are filled up with spaces
to multiples of eight cells, and a line that is too wide is broken in front of a word.  A word that is
wider than the field is folded, or stands on a line of its own that ends in an ellipsis.  Blanks at the
end of a broken line are dropped only as far as the line is too long.
-/

namespace Daihon.Report

/-- What becomes of words that are wider than their field. -/
inductive Overflow where
  | fold
  | ellipsis
  deriving DecidableEq, Repr

def spaces (n : Nat) : List Char :=
  List.replicate n ' '

/-! ## Tabs -/

def tabWidth : Nat := 8

/-- Fills up the parts of a line between its tabs, the first of which starts at `position`. -/
def expandParts (position : Nat) : List (List Char) → List Char
  | [] => []
  | [part] => part
  | part :: parts =>
    let part := part ++ [' ']
    let reached := position + Text.width part
    let free := (tabWidth - reached % tabWidth) % tabWidth
    part ++ spaces free ++ expandParts (reached + free) parts

def tabParts : List Char → List (List Char)
  | [] => [[]]
  | c :: s =>
    if c = '\t' then [] :: tabParts s
    else
      match tabParts s with
      | [] => [[c]]
      | p :: ps => (c :: p) :: ps

def expandTabs (line : List Char) : List Char :=
  expandParts 0 (tabParts line)

/-! ## Breaking lines -/

/-- The words of a line, each with the blanks behind it, the first also with the blanks in front of it;
none in a line of blanks.  `held` is the part of a word so far, reversed. -/
def wordsFrom (held : List Char) (inWord behind : Bool) : List Char → List (List Char)
  | [] => if inWord then [held.reverse] else []
  | c :: s =>
    if Text.isBlank c then wordsFrom (c :: held) inWord inWord s
    else if behind then held.reverse :: wordsFrom [c] true false s
    else wordsFrom (c :: held) true false s

/-- Lines while they are filled: the full ones, the latest first, and the last one with its width.
Before the first word nothing has been placed. -/
structure Filling where
  full : List (List Char) := []
  line : List Char := []
  used : Nat := 0
  isNew : Bool := true

namespace Filling

/-- Starts a new line, unless nothing has been placed. -/
def start (f : Filling) (piece : List Char) : Filling :=
  { full := if f.isNew then f.full else f.line :: f.full
    line := piece
    used := Text.width piece
    isNew := false }

/-- Places a word in lines of at most `room` cells. -/
def place (overflow : Overflow) (room : Nat) (f : Filling) (word : List Char) : Filling :=
  let size := Text.width (Text.dropEndWhile Text.isBlank word)
  if f.used + size ≤ room then
    { f with line := f.line ++ word, used := f.used + Text.width word, isNew := false }
  else if room < size && overflow = .fold then (Text.chop room word).foldl start f
  else f.start word

def lines (f : Filling) : List (List Char) :=
  (f.line :: f.full).reverse

end Filling

/-- A line broken to `room` cells. -/
def breakLine (overflow : Overflow) (room : Nat) (line : List Char) : List (List Char) :=
  match wordsFrom [] false false line with
  | [] => [line]
  | words => (words.foldl (Filling.place overflow room) {}).lines

/-- A line without blanks at its end, as far as it has more than `room` characters. -/
def dropExcess (room : Nat) (line : List Char) : List Char :=
  let blanks := (line.reverse.takeWhile Text.isBlank).length
  line.take (line.length - min blanks (line.length - room))

/-- A line cut to `room` cells. -/
def cutLine (overflow : Overflow) (room : Nat) (line : List Char) : List Char :=
  if Text.width line ≤ room then line
  else
    match overflow with
    | .fold => Text.fit room line
    | .ellipsis => Text.fit (room - 1) line ++ ['…']

/-- The lines of a text in a field of `room` cells. -/
def layOut (overflow : Overflow) (room : Nat) (s : List Char) : List (List Char) :=
  (Text.pieces s).flatMap fun line =>
    (breakLine overflow room (expandTabs line)).map (dropExcess room)

/-! ## Placing lines in a field -/

inductive Placement where
  /-- At the left, without spaces behind. -/
  | loose
  | left
  | right
  | centre
  deriving DecidableEq, Repr

/-- A line in a field of `room` cells; an odd space around a centred line goes to the right. -/
def placeLine (overflow : Overflow) (placement : Placement) (room : Nat) (line : List Char) :
    List Char :=
  let cut := cutLine overflow room line
  let bare := cutLine overflow room (Text.dropEndWhile Text.isBlank line)
  let free := room - Text.width bare
  match placement with
  | .loose => cut
  | .left => cut ++ spaces (room - Text.width cut)
  | .right => spaces free ++ bare
  | .centre => spaces (free / 2) ++ bare ++ spaces (free - free / 2)

def inField (overflow : Overflow) (placement : Placement) (room : Nat) (s : List Char) :
    List (List Char) :=
  (layOut overflow room s).map (placeLine overflow placement room)

end Daihon.Report

import Daihon.Report.Layout
import Daihon.Report.Markup

/-!
# Grids

A grid has columns with headers, rows of cells, and perhaps a title above and a caption below.  It is
drawn with box characters: every column is as wide as its widest cell or header, with a space on either
side, and the title and the caption are centred.  Texts may hold markup and line feeds.  A grid that is
wider than the screen has its widest columns narrowed, and their texts are broken into lines.

* `Grid.sheet` replaces all texts by what shows of them, or finds the first tag that closes nothing;
* `Sheet.lines` draws a grid of such texts.
-/

namespace Daihon.Report

/-- On which side of a column its cells stand. -/
inductive Alignment where
  | left
  | right
  deriving DecidableEq, Repr

def Alignment.name : Alignment → String
  | left => "left"
  | right => "right"

def Alignment.placement : Alignment → Placement
  | left => .left
  | right => .right

structure Column where
  header : String
  alignment : Alignment := .left
  deriving DecidableEq, Repr

structure Grid where
  title : Option String := none
  caption : Option String := none
  columns : List Column
  rows : List (List String)
  deriving DecidableEq, Repr

/-! ## What shows of a grid -/

/-- A column as it shows: its header above its cells. -/
structure Strip where
  alignment : Alignment
  header : List Char
  cells : List (List Char)
  deriving DecidableEq, Repr

/-- A grid as it shows. -/
structure Sheet where
  title : Option (List Char)
  caption : Option (List Char)
  strips : List Strip
  deriving DecidableEq, Repr

/-- The results for all items, or the first error among them. -/
def allOk {α β ε : Type} (f : α → Except ε β) : List α → Except ε (List β)
  | [] => .ok []
  | a :: as =>
    match f a with
    | .error e => .error e
    | .ok b => (allOk f as).map (b :: ·)

def shownText (s : String) : Except MarkupError (List Char) :=
  shown s.toList

def shownOption : Option String → Except MarkupError (Option (List Char))
  | none => .ok none
  | some s => (shownText s).map some

namespace Grid

def cellsOf (g : Grid) (i : Nat) : List String :=
  g.rows.map fun row => row[i]?.getD ""

def strip (g : Grid) (column : Column) (i : Nat) : Except MarkupError Strip :=
  match shownText column.header with
  | .error e => .error e
  | .ok header => (allOk shownText (g.cellsOf i)).map fun cells => ⟨column.alignment, header, cells⟩

/-- A grid as it shows.  The columns are looked at first. -/
def sheet (g : Grid) : Except MarkupError Sheet :=
  match allOk (fun (column, i) => g.strip column i) g.columns.zipIdx with
  | .error e => .error e
  | .ok strips =>
    match shownOption g.title with
    | .error e => .error e
    | .ok title => (shownOption g.caption).map fun caption => ⟨title, caption, strips⟩

end Grid

/-! ## Widths -/

def screenWidth : Nat := 120

/-- Whether `c` ends a line of a text that is measured. -/
def isLineBreak (c : Char) : Bool :=
  let n := c.toNat
  (10 ≤ n && n ≤ 13) || (28 ≤ n && n ≤ 30) || n == 0x85 || n == 0x2028 || n == 0x2029

/-- The width of the widest line of a text; `line` is its first line so far, reversed. -/
def widestFrom (line : List Char) : List Char → Nat
  | [] => Text.width line.reverse
  | c :: s =>
    if isLineBreak c then max (Text.width line.reverse) (widestFrom [] s) else widestFrom (c :: line) s

/-- The width of the widest line of a text. -/
def widest (s : List Char) : Nat :=
  widestFrom [] s

def padding : Nat := 2

/-- The width of a column with its padding, if it may take `room` cells. -/
def Strip.width (room : Nat) (s : Strip) : Nat :=
  ((s.header :: s.cells).map fun cell => min (widest cell + padding) room).foldl max 0

/-- The whole number nearest to `n / d`, and of two that are equally near the even one. -/
def nearest (n d : Nat) : Nat :=
  let down := n / d
  if 2 * (n % d) < d || (2 * (n % d) = d && down % 2 = 0) then down else down + 1

/-- Takes `excess` cells off the columns that are `top` cells wide, of which there are `count`, in equal
shares of at most `limit` cells. -/
def takeOff (top limit : Nat) : Nat → Nat → List Nat → List Nat
  | _, _, [] => []
  | excess, count, w :: ws =>
    if w = top && 0 < count then
      let share := min limit (nearest excess count)
      (w - share) :: takeOff top limit (excess - share) (count - 1) ws
    else w :: takeOff top limit excess count ws

def totalWidth (ws : List Nat) : Nat :=
  ws.foldl (· + ·) 0

/-- Narrows the widest columns until all of them take at most `room` cells, in at most `fuel` steps. -/
def narrow (room : Nat) : Nat → List Nat → List Nat
  | 0, ws => ws
  | fuel + 1, ws =>
    let excess := totalWidth ws - room
    if excess = 0 then ws
    else
      let top := ws.foldl max 0
      let second := (ws.filter fun w => w != top).foldl max 0
      narrow room fuel
        (takeOff top (min excess (top - second)) excess (ws.filter fun w => w == top).length ws)

/-! ## Drawing -/

/-- The characters of a ruled line: its left end, the line itself, a crossing, and its right end. -/
structure Rule where
  left : Char
  line : Char
  crossing : Char
  right : Char

/-- The line above the headers. -/
def Rule.top : Rule := ⟨'┏', '━', '┳', '┓'⟩

/-- The line below the headers. -/
def Rule.head : Rule := ⟨'┡', '━', '╇', '┩'⟩

/-- The line below the rows. -/
def Rule.foot : Rule := ⟨'└', '─', '┴', '┘'⟩

/-- Texts between two ends, with a separator between each two of them. -/
def joined (left separator right : Char) (texts : List (List Char)) : List Char :=
  left :: [separator].intercalate texts ++ [right]

/-- A ruled line across columns of the given widths. -/
def Rule.draw (r : Rule) (widths : List Nat) : List Char :=
  joined r.left r.crossing r.right (widths.map fun w => List.replicate w r.line)

/-- A line of a cell between the spaces beside it.  A joiner at the end of its text has taken up one of
the spaces behind it, which is made up for. -/
def cellLine (room : Nat) (line : List Char) : List Char :=
  ' ' :: line ++ spaces (room - Text.width line) ++ [' ']

/-- The lines of a cell in a column of the given width; a column without room for text has none. -/
def cellLines (alignment : Alignment) (width : Nat) (cell : List Char) : List (List Char) :=
  if width ≤ padding then []
  else
    (inField .ellipsis alignment.placement (width - padding) cell).map (cellLine (width - padding))

/-- The edges of a row: at which of them the lines of a cell stand that has fewer than the row. -/
inductive Edge where
  | top
  | bottom
  deriving DecidableEq, Repr

/-- The lines of a cell with empty ones below or above. -/
def atEdge (edge : Edge) (height width : Nat) (lines : List (List Char)) : List (List Char) :=
  let blank := List.replicate (height - lines.length) (spaces width)
  match edge with
  | .top => lines ++ blank
  | .bottom => blank ++ lines

/-- The lines of a row of cells, each with the alignment and the width of its column, between bars. -/
def rowLines (bar : Char) (edge : Edge) (row : List (Alignment × Nat × List Char)) :
    List (List Char) :=
  let cells := row.map fun (alignment, width, cell) => (width, cellLines alignment width cell)
  let height := (cells.map fun (_, lines) => lines.length).foldl max 1
  (List.range height).map fun i =>
    joined bar bar bar (cells.map fun (width, lines) =>
      (atEdge edge height width lines)[i]?.getD [])

namespace Sheet

/-- The cells that the lines between columns and at both ends take. -/
def ruleWidth (s : Sheet) : Nat :=
  s.strips.length + 1

def widths (s : Sheet) : List Nat :=
  let room := screenWidth - s.ruleWidth
  let full := s.strips.map (Strip.width room)
  if totalWidth full ≤ room then full
  else (s.strips.zip (narrow room (totalWidth full) full)).map fun (strip, w) => strip.width w

def height (s : Sheet) : Nat :=
  (s.strips.map fun strip => strip.cells.length).foldl max 0

/-- The lines of a row in columns of the given widths; `pick` takes its cells from the columns. -/
def row (s : Sheet) (widths : List Nat) (bar : Char) (edge : Edge) (pick : Strip → List Char) :
    List (List Char) :=
  rowLines bar edge ((s.strips.zip widths).map fun (strip, w) => (strip.alignment, w, pick strip))

/-- The lines of a text above or below a grid of the given width. -/
def annotation (width : Nat) (text : Option (List Char)) : List (List Char) :=
  match text with
  | none => []
  | some text => inField .fold .centre width text

def lines (s : Sheet) : List (List Char) :=
  let widths := s.widths
  let width := totalWidth widths + s.ruleWidth
  annotation width s.title ++ [Rule.top.draw widths] ++ s.row widths '┃' .bottom Strip.header ++
    [Rule.head.draw widths] ++
    (List.range s.height).flatMap
      (fun i => s.row widths '│' .top fun strip => strip.cells[i]?.getD []) ++
    [Rule.foot.draw widths] ++ annotation width s.caption

end Sheet

/-- A grid drawn, every line ended by a line feed. -/
def Grid.text (g : Grid) : Except MarkupError String :=
  g.sheet.map fun sheet => .ofList (Text.unlines sheet.lines)

/-! ## Lines on the screen -/

/-- A text with markup as it is printed: broken to the screen, with a line feed at its end. -/
def printLine (s : String) : Except MarkupError String :=
  (shownText s).map fun s =>
    .ofList (Text.unlines (inField .fold .loose screenWidth s))

/-- What a row of texts prints, up to the first of them that cannot be shown. -/
def printAll : List (Except MarkupError String) → String × Option MarkupError
  | [] => ("", none)
  | .error e :: _ => ("", some e)
  | .ok s :: rest =>
    let (t, e) := printAll rest
    (s ++ t, e)

/-- A text as it is printed that has been drawn before: pictures are looked for once more, and lines are
broken to the screen. -/
def printDrawn (s : String) : String :=
  .ofList (Text.joinLines (inField .fold .loose screenWidth (shownPlain s.toList)))

end Daihon.Report

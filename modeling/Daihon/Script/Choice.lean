import Daihon.Decimal.Digits
import Daihon.Failure
import Daihon.Script.Line

/-!
# Choice blocks

A choice block offers the reader a decision.  Each of its items is a line such as
`1. text→target［route］`, with a number and a point or with a bullet in front; target and route may be
left out.  Lines that are no items are passed over, and the first blank line after an item ends the
block, so that nothing behind it is looked at.

* `item? s` is the text of an item;
* `Parts.ofItem` cuts an item into text, target and route: the text is the shortest non-empty one that
  leaves a tail of the form target and route;
* `Choice.block` reads a block.
-/

namespace Daihon.Script

/-- One option of a choice block. -/
structure Choice where
  id : String
  text : String
  nextScene : String := ""
  routeChange : Option String := none
  deriving DecidableEq, Repr

def choiceHeaderMark : List Char := ['選', '択', '肢']

/-! ## Items -/

/-- The rest of a line after the bullet of an item: digits and a point, or a dash or star. -/
def afterBullet? (s : List Char) : Option (List Char) :=
  match s.takeWhile Decimal.isDigit, s.dropWhile Decimal.isDigit with
  | _ :: _, '.' :: rest => some rest
  | [], '-' :: rest => some rest
  | [], '＊' :: rest => some rest
  | _, _ => none

/-- The part of an item that stands after its bullet and the blanks behind it; it must not be empty or
hold a line feed. -/
def bulletText? (s : List Char) : Option (List Char) :=
  match afterBullet? s with
  | none => none
  | some rest =>
    let text := Text.trim rest
    if text.isEmpty || text.contains '\n' then none else some text

/-- The text of the item in a trimmed line, if the line is one. -/
def item? (s : List Char) : Option (List Char) :=
  if Text.startsWith choiceHeaderMark s || Text.startsWith separatorMark s then none
  else bulletText? s

/-! ## Text, target and route -/

def arrow : Char := '→'

def openRoute : Char := '［'

def closeRoute : Char := '］'

/-- Whether `c` is one of the brackets around a route. -/
def isRouteBracket (c : Char) : Bool :=
  c = openRoute || c = closeRoute

/-- The route that `s` consists of: a non-empty text without brackets, in brackets. -/
def route? : List Char → Option (List Char)
  | [] => none
  | c :: s =>
    if c = openRoute && s.getLast? = some closeRoute then
      let route := s.dropLast
      if route.isEmpty || route.any isRouteBracket then none else some route
    else none

/-- What follows the text of an item: perhaps a target, perhaps a route. -/
structure Tail where
  target : Option (List Char)
  route : Option (List Char)
  deriving DecidableEq, Repr

/-- A target, which holds no bracket, and perhaps a route behind it. -/
def target? (s : List Char) : Option Tail :=
  let target := s.takeWhile fun c => !isRouteBracket c
  match s.dropWhile fun c => !isRouteBracket c with
  | [] => some ⟨some target, none⟩
  | rest => (route? rest).map fun route => ⟨some target, some route⟩

/-- A tail without target: blanks and perhaps a route. -/
def targetless? (s : List Char) : Option Tail :=
  match s.dropWhile Text.isBlank with
  | [] => some ⟨none, none⟩
  | rest => (route? rest).map fun route => ⟨none, some route⟩

/-- The tail that `s` consists of: an arrow with a target and perhaps a route, or blanks and perhaps a
route. -/
def tail? : List Char → Option Tail
  | [] => some ⟨none, none⟩
  | c :: s => (if c = arrow then target? s else none) <|> targetless? (c :: s)

/-- The parts of an item. -/
structure Parts where
  text : List Char
  tail : Tail
  deriving DecidableEq, Repr

/-- Cuts off the longest tail, the text before it being as short as can be. -/
def Parts.cut : List Char → Parts
  | [] => ⟨[], ⟨none, none⟩⟩
  | c :: s =>
    match tail? (c :: s) with
    | some tail => ⟨[], tail⟩
    | none => let p := Parts.cut s; { p with text := c :: p.text }

/-- The parts of an item; its first character always belongs to the text. -/
def Parts.ofItem : List Char → Parts
  | [] => ⟨[], ⟨none, none⟩⟩
  | c :: s => let p := Parts.cut s; { p with text := c :: p.text }

/-- The choice with number `number` that an item gives. -/
def Choice.ofItem (number : Nat) (item : List Char) : Choice :=
  let p := Parts.ofItem item
  { id := s!"choice_{number}"
    text := .ofList (Text.trim p.text)
    nextScene := .ofList (Text.trim (p.tail.target.getD []))
    routeChange := p.tail.route.map String.ofList }

/-! ## Blocks -/

/-- An element of what is handed in as a block: a line, bytes, or something that cannot be trimmed. -/
inductive Element where
  | line (s : String)
  | bytes (bs : List UInt8)
  | other (typeName : String)
  deriving DecidableEq, Repr

/-- Whether a byte is one that is trimmed off bytes: a space, or one from tab to carriage return. -/
def isBlankByte (b : UInt8) : Bool :=
  b = 0x20 || (0x09 ≤ b && b ≤ 0x0D)

/-- The line that an element counts as.  Bytes are trimmed as texts are, and blank ones count as a blank
line; other bytes cannot be compared with the marks of lines. -/
def Element.line? : Element → Except Failure String
  | .line s => .ok s
  | .bytes bs => if bs.all isBlankByte then .ok "" else .error .textForBytes
  | .other typeName => .error (.notText typeName)

/-- The choices of the elements that are left, when `count` choices have been read before. -/
def choicesFrom (count : Nat) : List Element → Except Failure (List Choice)
  | [] => .ok []
  | e :: es =>
    match e.line? with
    | .error f => .error f
    | .ok s =>
      let line := Text.trim s.toList
      if line.isEmpty then
        if count = 0 then choicesFrom count es else .ok []
      else
        match item? line with
        | none => choicesFrom count es
        | some item => (choicesFrom (count + 1) es).map (Choice.ofItem (count + 1) item :: ·)

/-- What is handed in where a choice block is expected: the elements of something that can be gone
through, or something that is no row of lines. -/
inductive BlockInput where
  | elements (es : List Element)
  | other (typeName : String)
  deriving DecidableEq, Repr

/-- The diagnostic for something that is no row of lines. -/
def notBlock (typeName : String) : Diagnostic :=
  { kind := .parse
    message := "Invalid choice block: expected an iterable of lines"
    hint := some "Split the block text with split_script_lines() first."
    details := some [("received_type", .text typeName)] }

def Choice.block : BlockInput → Except Failure (List Choice)
  | .elements es => choicesFrom 0 es
  | .other typeName => .error (.diagnosed (notBlock typeName))

def Choice.ofLines (ls : List String) : Except Failure (List Choice) :=
  choicesFrom 0 (ls.map .line)

end Daihon.Script

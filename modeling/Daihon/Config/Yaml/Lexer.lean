import Daihon.Config.Yaml.Scalar
import Daihon.Encoding.Utf8
import Daihon.Text.Lines

/-!
# Cutting YAML into tokens

Tokens are read one after another.  Indents open and close blocks, and a colon turns the node before it
into a key: where a key might have started is remembered until the line ends, and the token for the key
is put there once the colon is found.  A key without a mark stands in one line and has at most 1024 characters,
as YAML 1.1 has it.

* `tokens` cuts a text into tokens; if it cannot be read to its end, the last token is a fault.
-/

namespace Daihon.Yaml

/-! ## Tags and directives -/

/-- The characters of a tag besides letters and digits. -/
def tagMarks : List Char :=
  ['-', ';', '/', '?', ':', '@', '&', '=', '+', '$', ',', '_', '.', '!', '~', '*', Text.singleQuote,
    '(', ')', '[', ']', '%']

/-- Whether `c` may stand in a tag. -/
def isTagChar (c : Char) : Bool :=
  c.isAlphanum || tagMarks.contains c

/-- The bytes of a row of percent signs with two hexadecimal digits each, and what follows them. -/
def percentBytes (fuel : Nat) (done : List UInt8) (s : List Char) :
    Except DataFault (List UInt8 × List Char) :=
  match fuel, s with
  | fuel + 1, '%' :: a :: b :: r =>
    match Decimal.ofBase? 16 [a, b] with
    | some n => percentBytes fuel (UInt8.ofNat n :: done) r
    | none => malformed
  | _, '%' :: _ => malformed
  | _, s => .ok (done.reverse, s)

/-- A text with its escapes by percent signs replaced, with at most `fuel` characters. -/
def unescapeTag (fuel : Nat) (done : List Char) (s : List Char) : Except DataFault (List Char) :=
  match fuel with
  | 0 => .ok done.reverse
  | fuel + 1 =>
    match s with
    | [] => .ok done.reverse
    | '%' :: r =>
      match percentBytes (r.length + 1) [] ('%' :: r) with
      | .error f => .error f
      | .ok (bytes, r) =>
        match Encoding.Utf8.decode bytes with
        | .ok cs => unescapeTag fuel (cs.reverse ++ done) r
        | .error _ => malformed
    | c :: r => unescapeTag fuel (c :: done) r

/-- The longest row of characters of a tag; there must be one. -/
def tagText (p : Cursor) : Except DataFault (String × Cursor) := do
  let row := p.row isTagChar
  if row.isEmpty then malformed
  else
    let text ← unescapeTag (row.length + 1) [] row
    return (.ofList text, p.advance row.length)

/-- The handle of a tag: an exclamation mark, or a name between two of them. -/
def tagHandle (p : Cursor) : Except DataFault (String × Cursor) :=
  if p.peek ≠ some '!' then malformed
  else if p.peekAt 1 == some ' ' then .ok ("!", p.next)
  else
    let name := p.next.row isNameChar
    if p.peekAt (name.length + 1) == some '!' then
      .ok (.ofList ('!' :: name ++ ['!']), p.advance (name.length + 2))
    else malformed

/-- Whether a second exclamation mark follows in a tag. -/
def hasHandle (p : Cursor) : Bool :=
  (p.next.row fun c => !endsField (some c)).contains '!'

def tag (p : Cursor) : Except DataFault (Token × Cursor) := do
  let (token, p) ←
    if p.peekAt 1 == some '<' then do
      let (suffix, p) ← tagText (p.advance 2)
      if p.peek ≠ some '>' then malformed else pure (Token.tag none suffix, p.next)
    else if endsWord (p.peekAt 1) then pure (Token.tag none "!", p.next)
    else do
      let (handle, p) ← if hasHandle p then tagHandle p else pure ("!", p.next)
      let (suffix, p) ← tagText p
      pure (Token.tag (some handle) suffix, p)
  if endsField p.peek then return (token, p) else malformed

def directiveNumber (p : Cursor) : Except DataFault (Nat × Cursor) :=
  let digits := p.row Decimal.isDigit
  if digits.isEmpty then malformed
  else .ok (Decimal.ofDigits digits, p.advance digits.length)

def versionDirective (p : Cursor) : Except DataFault (Directive × Cursor) := do
  let (major, p) ← directiveNumber p.skipSpaces
  if p.peek ≠ some '.' then malformed
  else
    let (_, p) ← directiveNumber p.next
    if endsField p.peek then return (.version major, p) else malformed

def handleDirective (p : Cursor) : Except DataFault (Directive × Cursor) := do
  let (name, p) ← tagHandle p.skipSpaces
  if p.peek ≠ some ' ' then malformed
  else
    let (start, p) ← tagText p.skipSpaces
    if endsField p.peek then return (.handle name start, p) else malformed

def directive (p : Cursor) : Except DataFault (Directive × Cursor) := do
  let p := p.next
  let name := p.row isNameChar
  let p := p.advance name.length
  if name.isEmpty || !endsField p.peek then malformed
  else
    let (d, p) ←
      if name == ['Y', 'A', 'M', 'L'] then versionDirective p
      else if name == ['T', 'A', 'G'] then handleDirective p
      else pure (Directive.other, p.skipLine)
    let p := p.skipSpaces.skipComment
    if endsLine p.peek then return (d, p.skipBreak) else malformed

/-- The name behind the mark of an anchor or an alias. -/
def anchorName (p : Cursor) : Except DataFault (String × Cursor) :=
  let name := p.next.row isNameChar
  let p := p.advance (name.length + 1)
  let isEnd :=
    endsWord p.peek ||
      p.peek.any fun c =>
        c == '?' || c == ':' || c == ',' || c == ']' || c == '}' || c == '%' || c == '@' || c.toNat == 96
  if name.isEmpty || !isEnd then malformed else .ok (.ofList name, p)

/-! ## The state of the lexer -/

/-- A place where a key may have started: the number of tokens before it, whether it must turn out to be
a key, and where it stands. -/
structure KeyPlace where
  before : Nat
  isRequired : Bool
  index : Nat
  line : Nat
  column : Nat

/-- The tokens read so far, last first, and what decides how to read on. -/
structure Lexer where
  cursor : Cursor
  tokens : List Token := []
  count : Nat := 0
  /-- The number of open brackets. -/
  depth : Nat := 0
  /-- The column of the innermost block; `-1` outside all blocks. -/
  indent : Int := -1
  outer : List Int := []
  mayStartKey : Bool := true
  /-- Where keys may have started, with the number of brackets open there. -/
  keys : List (Nat × KeyPlace) := []

namespace Lexer

/-- Whether a bracket is open. -/
def inFlow (l : Lexer) : Bool :=
  l.depth ≠ 0

def emit (l : Lexer) (t : Token) : Lexer :=
  { l with tokens := t :: l.tokens, count := l.count + 1 }

/-- Puts a token behind the first `before` ones. -/
def emitAt (l : Lexer) (before : Nat) (t : Token) : Lexer :=
  let after := l.count - before
  { l with tokens := l.tokens.take after ++ t :: l.tokens.drop after, count := l.count + 1 }

/-- Adds a token that ends at `p`. -/
def emitTo (l : Lexer) (t : Token) (p : Cursor) : Lexer :=
  { l.emit t with cursor := p }

/-- Closes the blocks that are indented deeper than a column. -/
def unwind (column : Int) (l : Lexer) : Lexer :=
  if l.inFlow then l
  else
    let levels := l.indent :: l.outer
    let closed := levels.takeWhile fun i => column < i
    match levels.drop closed.length with
    | indent :: outer =>
      closed.foldl (fun l _ => l.emit .blockEnd) { l with indent, outer }
    | [] => closed.foldl (fun l _ => l.emit .blockEnd) { l with indent := -1, outer := [] }

/-- Opens a block at a column, unless one is open there: its token goes behind the first `before`
ones. -/
def openBlock (l : Lexer) (column before : Nat) (t : Token) : Lexer :=
  if l.indent < column then
    { l with indent := column, outer := l.indent :: l.outer }.emitAt before t
  else l

/-- The place of a key within the brackets that are open. -/
def key? (l : Lexer) : Option KeyPlace :=
  (l.keys.find? fun k => k.1 == l.depth).map Prod.snd

/-- Gives up the place of a key within the brackets that are open; it must not be required. -/
def dropKey (l : Lexer) : Except DataFault Lexer :=
  if l.key?.any KeyPlace.isRequired then malformed
  else .ok { l with keys := l.keys.filter fun k => k.1 != l.depth }

/-- Remembers that a key may start here. -/
def saveKey (l : Lexer) : Except DataFault Lexer :=
  if !l.mayStartKey then .ok l
  else do
    let l ← l.dropKey
    let p := l.cursor
    let isRequired := !l.inFlow && l.indent == p.column
    return { l with keys := (l.depth, ⟨l.count, isRequired, p.index, p.line, p.column⟩) :: l.keys }

/-- Whether a key that started at a place can no longer end here: it lies in one line and is not too
long. -/
def isStale (l : Lexer) (k : KeyPlace) : Bool :=
  k.line != l.cursor.line || k.index + 1024 < l.cursor.index

/-- Forgets the places of keys that cannot end any more; none of them may be required. -/
def dropStale (l : Lexer) : Except DataFault Lexer :=
  if l.keys.any fun k => l.isStale k.2 && k.2.isRequired then malformed
  else .ok { l with keys := l.keys.filter fun k => !l.isStale k.2 }

/-- Passes spaces, comments and line ends, with at most `fuel` lines.  Outside brackets a key may start in
a new line. -/
def skipBlank (fuel : Nat) (l : Lexer) : Lexer :=
  match fuel with
  | 0 => l
  | fuel + 1 =>
    let p := l.cursor.skipSpaces.skipComment
    match p.break? with
    | some (_, p) => skipBlank fuel { l with cursor := p, mayStartKey := l.mayStartKey || !l.inFlow }
    | none => { l with cursor := p }

/-! ## Reading one token -/

/-- Reads a directive or the marker of a document, which stand outside all blocks. -/
def atMargin (l : Lexer) (t : Token) (p : Cursor) : Except DataFault Lexer := do
  let l ← (l.unwind (-1)).dropKey
  return { l.emitTo t p with mayStartKey := false }

def openFlow (l : Lexer) (t : Token) : Except DataFault Lexer := do
  let l ← l.saveKey
  return { l.emitTo t l.cursor.next with depth := l.depth + 1, mayStartKey := true }

def closeFlow (l : Lexer) (t : Token) : Except DataFault Lexer := do
  if !l.inFlow then malformed
  else
    let l ← l.dropKey
    return { l.emitTo t l.cursor.next with depth := l.depth - 1, mayStartKey := false }

def comma (l : Lexer) : Except DataFault Lexer := do
  let l ← l.dropKey
  return { l.emitTo .comma l.cursor.next with mayStartKey := true }

def dash (l : Lexer) : Except DataFault Lexer := do
  if !l.inFlow && !l.mayStartKey then malformed
  else
    let l := if l.inFlow then l else l.openBlock l.cursor.column l.count .blockList
    let l ← l.dropKey
    return { l.emitTo .dash l.cursor.next with mayStartKey := true }

def explicitKey (l : Lexer) : Except DataFault Lexer := do
  if !l.inFlow && !l.mayStartKey then malformed
  else
    let l := if l.inFlow then l else l.openBlock l.cursor.column l.count .blockMapping
    let l ← l.dropKey
    return { l.emitTo .key l.cursor.next with mayStartKey := !l.inFlow }

/-- Reads the colon of a value.  What stands before it in the line is its key. -/
def colon (l : Lexer) : Except DataFault Lexer := do
  match l.key? with
  | some k =>
    let l := { l with keys := l.keys.filter fun k => k.1 != l.depth }
    let l := l.emitAt k.before .key
    let l := if l.inFlow then l else l.openBlock k.column k.before .blockMapping
    return { l.emitTo .value l.cursor.next with mayStartKey := false }
  | none =>
    if !l.inFlow && !l.mayStartKey then malformed
    else
      let l := if l.inFlow then l else l.openBlock l.cursor.column l.count .blockMapping
      let l ← l.dropKey
      return { l.emitTo .value l.cursor.next with mayStartKey := !l.inFlow }

/-- Reads a property of a node, a name for one, or a quoted scalar, which may all start a key. -/
def word (l : Lexer) (scan : Cursor → Except DataFault (Token × Cursor)) : Except DataFault Lexer := do
  let l ← l.saveKey
  let (t, p) ← scan l.cursor
  return { l.emitTo t p with mayStartKey := false }

/-- The column that what belongs to the innermost block must reach. -/
def inner (l : Lexer) : Nat :=
  (l.indent + 1).toNat

def plain (l : Lexer) : Except DataFault Lexer := do
  let l ← l.saveKey
  let s := plainScalar l.inFlow l.inner l.cursor
  return { l.emitTo (.scalar .plain s.text) s.stop with mayStartKey := s.hasBreak }

def block (l : Lexer) (isFolded : Bool) : Except DataFault Lexer := do
  let l ← l.dropKey
  let (s, p) ← blockScalar isFolded l.inner l.cursor
  return { l.emitTo (.scalar .quoted s) p with mayStartKey := true }

/-- The characters that no plain scalar starts with. -/
def indicators : List Char :=
  ['-', '?', ':', ',', '[', ']', '{', '}', '#', '&', '*', '!', '|', '>', Text.singleQuote,
    Text.doubleQuote, '%', '@', Char.ofNat 96]

def startsPlain (l : Lexer) : Bool :=
  match l.cursor.peek with
  | none => false
  | some c =>
    (!endsWord (some c) && !indicators.contains c) ||
      (!endsWord (l.cursor.peekAt 1) && (c == '-' || (!l.inFlow && (c == '?' || c == ':'))))

/-- Whether the marker of a document with the character `c` stands here. -/
def isAtMarker (l : Lexer) (c : Char) : Bool :=
  l.cursor.column == 0 && l.cursor.peek == some c && l.cursor.isAtMarker

/-- A token with what stands for a name behind it. -/
def named (t : String → Token) (p : Cursor) : Except DataFault (Token × Cursor) := do
  let (name, p) ← anchorName p
  return (t name, p)

def quoted (quote : Char) (p : Cursor) : Except DataFault (Token × Cursor) := do
  let (cs, p) ← quotedScalar quote p
  match cs.mapM id with
  | some s => return (.scalar .quoted s, p)
  | none => return (.scalar .broken (cs.map fun c => c.getD '\uFFFD'), p)

/-- Reads the token that starts with the character `c`. -/
def token (l : Lexer) (c : Char) : Except DataFault Lexer := do
  let p := l.cursor
  let endsMark := l.inFlow || endsWord (p.peekAt 1)
  if c = '%' && p.column == 0 then
    let (d, p) ← directive p
    l.atMargin (.directive d) p
  else if l.isAtMarker '-' then l.atMargin .documentStart (p.advance 3)
  else if l.isAtMarker '.' then l.atMargin .documentEnd (p.advance 3)
  else if c = '[' then l.openFlow .flowListStart
  else if c = '{' then l.openFlow .flowMappingStart
  else if c = ']' then l.closeFlow .flowListEnd
  else if c = '}' then l.closeFlow .flowMappingEnd
  else if c = ',' then l.comma
  else if c = '-' && endsWord (p.peekAt 1) then l.dash
  else if c = '?' && endsMark then l.explicitKey
  else if c = ':' && endsMark then l.colon
  else if c = '*' then l.word (named .alias)
  else if c = '&' then l.word (named .anchor)
  else if c = '!' then l.word tag
  else if c = '|' && !l.inFlow then l.block false
  else if c = '>' && !l.inFlow then l.block true
  else if c = Text.singleQuote || c = Text.doubleQuote then l.word (quoted c)
  else if l.startsPlain then l.plain
  else malformed

/-- Reads the next token with the ends of the blocks before it; `none` at the end of the text. -/
def step (l : Lexer) : Except DataFault (Option Lexer) := do
  let l ← (l.skipBlank (l.cursor.rest.length + 1)).dropStale
  let l := l.unwind l.cursor.column
  match l.cursor.peek with
  | some c =>
    let l ← l.token c
    return some l
  | none => return none

/-- The tokens in their order, behind the ends of the blocks that are still open. -/
def finish (l : Lexer) : List Token :=
  let l := l.unwind (-1)
  match (l.skipBlank (l.cursor.rest.length + 1)).dropStale.bind dropKey with
  | .ok _ => l.tokens.reverse
  | .error f => (l.emit (.fault f)).tokens.reverse

/-- Reads all tokens, with at most `fuel` of them. -/
def run (fuel : Nat) (l : Lexer) : List Token :=
  match fuel with
  | 0 => (l.emit (.fault .malformed)).tokens.reverse
  | fuel + 1 =>
    match l.step with
    | .error f => (l.emit (.fault f)).tokens.reverse
    | .ok none => l.finish
    | .ok (some l) => run fuel l

end Lexer

/-- The tokens of a text; a byte order mark at its start is passed over. -/
def tokens (s : List Char) : List Token :=
  let start : Cursor := { rest := s }
  let start := if s.head? == some '\uFEFF' then start.next else start
  Lexer.run (s.length + 2) { cursor := start }

end Daihon.Yaml

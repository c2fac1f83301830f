import Daihon.Config.Yaml.Token
import Daihon.Decimal.Digits

/-!
# Scalars of YAML

A scalar is plain, quoted, or a block of lines under a header.  Line ends inside a plain or quoted scalar
are folded: one of them becomes a space, and of several the first is dropped.  A block keeps its line
ends, or folds those between lines that do not start with a blank.  Escapes, folding and the chomping of blocks are
those of chapters 5 and 9 of YAML 1.1.
-/

namespace Daihon.Yaml

/-- Line ends folded: the first one, and the others that stand with it. -/
def folded (first : Char) (others : List Char) : List Char :=
  if first ≠ '\n' then first :: others
  else if others.isEmpty then [' ']
  else others

/-! ## Quoted scalars -/

/-- The line ends from here to the next text, with at most `fuel` lines; a document marker may not
stand among them. -/
def quotedBreaks (fuel : Nat) (done : List Char) (p : Cursor) : Except DataFault (List Char × Cursor) :=
  match fuel with
  | 0 => malformed
  | fuel + 1 =>
    if p.isAtMarker then malformed
    else
      match (p.skip isGap).break? with
      | some (c, p) => quotedBreaks fuel (c :: done) p
      | none => .ok (done.reverse, p.skip isGap)

/-- The blanks and line ends that stand here inside quotes, folded. -/
def quotedGap (p : Cursor) : Except DataFault (List Char × Cursor) := do
  let gap := p.row isGap
  let p := p.advance gap.length
  match p.break? with
  | some (c, p) =>
    let (others, p) ← quotedBreaks (p.rest.length + 1) [] p
    return (folded c others, p)
  | none => if p.isAtEnd then malformed else return (gap, p)

/-- The character for a letter after a backslash. -/
def escape? (c : Char) : Option Char :=
  match c with
  | '0' => some '\x00'
  | 'a' => some '\x07'
  | 'b' => some '\x08'
  | 't' => some '\t'
  | '\t' => some '\t'
  | 'n' => some '\n'
  | 'v' => some '\x0b'
  | 'f' => some '\x0c'
  | 'r' => some '\r'
  | 'e' => some '\x1b'
  | ' ' => some ' '
  | '"' => some '"'
  | '\\' => some '\\'
  | '/' => some '/'
  | 'N' => some '\x85'
  | '_' => some '\xa0'
  | 'L' => some '\u2028'
  | 'P' => some '\u2029'
  | _ => none

/-- The number of hexadecimal digits that the letter of an escape asks for. -/
def escapeLength? (c : Char) : Option Nat :=
  match c with
  | 'x' => some 2
  | 'u' => some 4
  | 'U' => some 8
  | _ => none

/-- The character of a code; a surrogate belongs to none. -/
def ofCode (code : Nat) : Except DataFault (Option Char) :=
  if 0x80000000 ≤ code then .error (.scalar .hugeCharacter)
  else if 0x110000 ≤ code then .error (.scalar .character)
  else if 0xD800 ≤ code && code ≤ 0xDFFF then .ok none
  else .ok (some (Char.ofNat code))

/-- What an escape stands for, read after its backslash. -/
def escape (p : Cursor) : Except DataFault (List (Option Char) × Cursor) := do
  match p.peek with
  | none => malformed
  | some e =>
    match escape? e with
    | some c => return ([some c], p.next)
    | none =>
      match escapeLength? e with
      | some n =>
        let digits := p.next.rest.take n
        match Decimal.ofBase? 16 digits with
        | some code =>
          if digits.length ≠ n then malformed
          else
            let c ← ofCode code
            return ([c], p.next.advance n)
        | none => malformed
      | none =>
        match p.break? with
        | some (_, p) =>
          let (cs, p) ← quotedBreaks (p.rest.length + 1) [] p
          return (cs.map some, p)
        | none => malformed

/-- The rest of a scalar in quotes `quote` behind what has been read of it, in reverse, with at most
`fuel` steps; surrogates are missing.  In double quotes a backslash starts an escape; in single quotes a
quote is written twice. -/
def quotedRest (quote : Char) (fuel : Nat) (done : List (Option Char)) (p : Cursor) :
    Except DataFault (List (Option Char) × Cursor) :=
  match fuel with
  | 0 => malformed
  | fuel + 1 =>
    match p.peek with
    | none => malformed
    | some c =>
      if c = quote then
        if c ≠ '"' && p.peekAt 1 == some c then
          quotedRest quote fuel (some c :: done) (p.advance 2)
        else .ok (done.reverse, p.next)
      else if c = '\\' && quote = '"' then
        match escape p.next with
        | .ok (cs, p) => quotedRest quote fuel (cs.reverse ++ done) p
        | .error f => .error f
      else if isGap c || isBreak c then
        match quotedGap p with
        | .ok (cs, p) => quotedRest quote fuel (cs.reverse.map some ++ done) p
        | .error f => .error f
      else quotedRest quote fuel (some c :: done) p.next

/-- The quoted scalar that starts here with the quote `quote`. -/
def quotedScalar (quote : Char) (p : Cursor) : Except DataFault (List (Option Char) × Cursor) :=
  quotedRest quote (p.rest.length + 1) [] p.next

/-! ## Plain scalars -/

/-- The characters with a meaning inside brackets. -/
def isFlowMark (c : Char) : Bool :=
  c == ',' || c == '[' || c == ']' || c == '{' || c == '}'

/-- Whether a plain scalar stops before the text `s`. -/
def stopsPlain (inFlow : Bool) (s : List Char) : Bool :=
  match s with
  | [] => true
  | c :: r =>
    isGap c || isBreak c ||
      (c == ':' && (endsWord r.head? || (inFlow && r.head?.any isFlowMark))) ||
      (inFlow && (isFlowMark c || c == '?'))

/-- The word of a plain scalar at the start of a text, in reverse behind `done`. -/
def plainWord (inFlow : Bool) (done : List Char) : List Char → List Char
  | [] => done
  | c :: s => if stopsPlain inFlow (c :: s) then done else plainWord inFlow (c :: done) s

/-- Spaces and further line ends after the first one, up to a document marker, with at most `fuel`
characters; `none` if there is such a marker. -/
def plainBreaks (fuel : Nat) (done : List Char) (p : Cursor) : Option (List Char) × Cursor :=
  match fuel with
  | 0 => (some done.reverse, p)
  | fuel + 1 =>
    let q := p.skipSpaces
    match q.break? with
    | some (c, q) => if q.isAtMarker then (none, q) else plainBreaks fuel (c :: done) q
    | none => (some done.reverse, q)

/-- The blanks between two words of a plain scalar: what they stand for, where they end, and whether
there is a line end among them. -/
structure PlainGap where
  text : List Char
  stop : Cursor
  hasBreak : Bool

/-- The blanks that stand here.  Without any text the scalar does not go on behind them. -/
def plainGap (p : Cursor) : PlainGap :=
  let spaces := p.row fun c => c == ' '
  let p := p.advance spaces.length
  match p.break? with
  | none => ⟨spaces, p, false⟩
  | some (c, p) =>
    if p.isAtMarker then ⟨[], p, true⟩
    else
      match plainBreaks (p.rest.length + 1) [] p with
      | (none, p) => ⟨[], p, true⟩
      | (some others, p) => ⟨folded c others, p, true⟩

/-- A plain scalar, and whether it ends behind a line end. -/
structure Plain where
  text : List Char
  stop : Cursor
  hasBreak : Bool

/-- The rest of a plain scalar behind what has been read of it, in reverse, and the blanks that stand
before the next word, with at most `fuel` words.  Outside brackets it ends at a line indented less than
`indent`. -/
def plainRest (inFlow : Bool) (indent : Nat) (fuel : Nat) (done : List Char) (gap : PlainGap) : Plain :=
  let finish : Plain := ⟨done.reverse, gap.stop, gap.hasBreak⟩
  match fuel with
  | 0 => finish
  | fuel + 1 =>
    let p := gap.stop
    let word := plainWord inFlow [] p.rest
    if word.isEmpty || p.peek == some '#' then finish
    else
      let done := word ++ (gap.text.reverse ++ done)
      let gap := plainGap (p.advance word.length)
      if gap.text.isEmpty || gap.stop.peek == some '#' ||
          (!inFlow && gap.stop.column < indent) then
        ⟨done.reverse, gap.stop, gap.hasBreak⟩
      else plainRest inFlow indent fuel done gap

def plainScalar (inFlow : Bool) (indent : Nat) (p : Cursor) : Plain :=
  plainRest inFlow indent (p.rest.length + 1) [] ⟨[], p, false⟩

/-! ## Blocks -/

/-- What becomes of the line ends at the end of a block: one is kept, none, or all. -/
inductive Chomping where
  | clip
  | strip
  | keep
  deriving DecidableEq, Repr

/-- The header of a block: what becomes of its last line ends, and by how much it is indented. -/
structure BlockHeader where
  chomping : Chomping := .clip
  increment : Option Nat := none
  deriving DecidableEq, Repr

def chomping? (c : Option Char) : Option Chomping :=
  match c with
  | some '+' => some .keep
  | some '-' => some .strip
  | _ => none

/-- The digit in a header; a zero is malformed. -/
def increment (p : Cursor) : Except DataFault (Option Nat × Cursor) :=
  match p.peek with
  | some c =>
    if !Decimal.isDigit c then .ok (none, p)
    else if c = '0' then malformed
    else .ok (some (Decimal.digitValue c), p.next)
  | none => .ok (none, p)

/-- The header of a block: a sign and a digit in either order, and perhaps a comment. -/
def blockHeader (p : Cursor) : Except DataFault (BlockHeader × Cursor) := do
  let (header, p) ←
    match chomping? p.peek with
    | some chomping => do
      let (n, p) ← increment p.next
      pure (BlockHeader.mk chomping n, p)
    | none => do
      let (n, p) ← increment p
      match n, chomping? p.peek with
      | some _, some chomping => pure (BlockHeader.mk chomping n, p.next)
      | _, _ => pure (BlockHeader.mk .clip n, p)
  if !endsField p.peek then malformed
  else
    let p := p.skipSpaces.skipComment
    if !endsLine p.peek then malformed else return (header, p.skipBreak)

/-- The line ends in front of the first line of a block, and the greatest column that spaces reach before
it, with at most `fuel` lines. -/
def blockIndent (fuel : Nat) (done : List Char) (column : Nat) (p : Cursor) :
    List Char × Nat × Cursor :=
  match fuel with
  | 0 => (done.reverse, column, p)
  | fuel + 1 =>
    let p := p.skipSpaces
    let column := max column p.column
    match p.break? with
    | some (c, p) => blockIndent fuel (c :: done) column p
    | none => (done.reverse, column, p)

/-- The line ends of empty lines, and the spaces up to the indent of the line behind them, with at most
`fuel` lines. -/
def blockBreaks (indent : Nat) (fuel : Nat) (done : List Char) (p : Cursor) : List Char × Cursor :=
  match fuel with
  | 0 => (done.reverse, p)
  | fuel + 1 =>
    let p := p.skipSpacesTo indent
    match p.break? with
    | some (c, p) => blockBreaks indent fuel (c :: done) p
    | none => (done.reverse, p)

/-- What has been read of a block: its text in reverse, the end of its last line, and the ends of the
empty lines behind it. -/
structure BlockText where
  text : List Char
  lineEnd : List Char
  breaks : List Char

/-- Reads the lines of a block, with at most `fuel` of them. -/
def blockLines (isFolded : Bool) (indent : Nat) (fuel : Nat) (t : BlockText) (p : Cursor) :
    BlockText × Cursor :=
  match fuel with
  | 0 => (t, p)
  | fuel + 1 =>
    if p.column ≠ indent || p.isAtEnd then (t, p)
    else
      let line := p.row fun c => !isBreak c
      let text := line.reverse ++ (t.breaks.reverse ++ t.text)
      let startsBlank := p.peek.any isGap
      let p := p.advance line.length
      let lineEnd := (p.break?.map fun b => [b.1]).getD []
      let (breaks, p) := blockBreaks indent (p.rest.length + 1) [] p.skipBreak
      if p.column ≠ indent || p.isAtEnd then (⟨text, lineEnd, breaks⟩, p)
      else
        let joint :=
          if isFolded && lineEnd == ['\n'] && !startsBlank && !p.peek.any isGap then
            if breaks.isEmpty then [' '] else []
          else lineEnd
        blockLines isFolded indent fuel ⟨joint ++ text, lineEnd, breaks⟩ p

/-- The text of a block with its last line ends. -/
def BlockText.close (t : BlockText) : Chomping → List Char
  | .strip => t.text.reverse
  | .clip => t.text.reverse ++ t.lineEnd
  | .keep => t.text.reverse ++ t.lineEnd ++ t.breaks

/-- The block that starts here, inside a collection indented by less than `least`. -/
def blockScalar (isFolded : Bool) (least : Nat) (p : Cursor) : Except DataFault (List Char × Cursor) := do
  let (header, p) ← blockHeader p.next
  let least := max least 1
  let fuel := p.rest.length + 1
  let (indent, breaks, p) :=
    match header.increment with
    | none =>
      let (breaks, column, p) := blockIndent fuel [] 0 p
      (max least column, breaks, p)
    | some n =>
      let indent := least + n - 1
      let (breaks, p) := blockBreaks indent fuel [] p
      (indent, breaks, p)
  let (t, p) := blockLines isFolded indent fuel ⟨[], [], breaks⟩ p
  return (t.close header.chomping, p)

end Daihon.Yaml

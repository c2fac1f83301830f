import Daihon.Config.Toml.Scalar

/-!
# Reading TOML

A text is a row of statements, each on lines of its own: a key with its value, the header of a table, or
the header of one more table of a list.  A key may be given only once, a table may be opened by a header
only once, and nothing can be added to a value that has been written as one.

* `parse` is the table of a text.
-/

namespace Daihon.Toml

/-! ## Blanks and comments -/

/-- What follows a comment, if one stands at the start. -/
def skipComment (s : List Char) : Except DataFault (List Char) :=
  match s with
  | '#' :: r =>
    let rest := r.dropWhile isAllowed
    match rest with
    | [] => .ok []
    | '\n' :: _ => .ok rest
    | _ => malformed
  | s => .ok s

/-- What follows blanks, line ends and comments, with at most `fuel` of them. -/
def skipLines (fuel : Nat) (s : List Char) : Except DataFault (List Char) :=
  match fuel with
  | 0 => .ok s
  | fuel + 1 =>
    let r := skipAll s
    match r with
    | '#' :: _ =>
      match skipComment r with
      | .ok r => skipLines fuel r
      | .error f => .error f
    | r => .ok r

/-- What follows the end of the line; only blanks and a comment may stand before it. -/
def endLine (s : List Char) : Except DataFault (List Char) :=
  match skipComment (skip s) with
  | .ok [] => .ok []
  | .ok ('\n' :: r) => .ok r
  | .ok _ => malformed
  | .error f => .error f

/-! ## Keys -/

/-- The parts of a key. -/
abbrev Key := List String

def isBare (c : Char) : Bool :=
  c.isAlphanum || c == '_' || c == '-'

/-- One part of a key, and what follows it. -/
def keyPart (s : List Char) : Except DataFault (String × List Char) :=
  match s with
  | [] => malformed
  | c :: r =>
    if isBare c then .ok (.ofList (s.takeWhile isBare), s.dropWhile isBare)
    else
      let quoted? :=
        if c = '"' then basic? false (r.length + 1) [] r
        else if c = Text.singleQuote then literal? false [] r
        else none
      match quoted? with
      | some (cs, r) => .ok (.ofList cs, r)
      | none => malformed

/-- A key of parts joined by points, with at most `fuel` parts, and what follows it and the blanks behind
it. -/
def key (fuel : Nat) (s : List Char) : Except DataFault (Key × List Char) :=
  match fuel with
  | 0 => malformed
  | fuel + 1 => do
    let (part, r) ← keyPart s
    match skip r with
    | '.' :: r =>
      let (parts, r) ← key fuel (skip r)
      return (part :: parts, r)
    | r => return ([part], r)

/-! ## Tables -/

/-- Changes the table under a key, opening tables on the way.  Where a list is in the way its last table
counts, if `isThrough` is set; nothing else may be in the way. -/
def within? (isThrough : Bool) (change : Table Value → Option (Table Value)) :
    Key → Table Value → Option (Table Value)
  | [], t => change t
  | k :: ks, t =>
    match t.get? k with
    | none => (within? isThrough change ks []).map fun inner => t.put k (.table inner)
    | some (.table inner) =>
      (within? isThrough change ks inner).map fun inner => t.put k (.table inner)
    | some (.list items) =>
      match isThrough, items.getLast? with
      | true, some (.table inner) =>
        (within? isThrough change ks inner).map fun inner =>
          t.put k (.list (items.dropLast ++ [.table inner]))
      | _, _ => none
    | some _ => none

/-- Sets the value under a key that is not there yet. -/
def setNew? (k : String) (v : Value) (t : Table Value) : Option (Table Value) :=
  if (t.get? k).isSome then none else some (t.put k v)

/-- Adds an empty table to the list under a key. -/
def appendTable? (k : String) (t : Table Value) : Option (Table Value) :=
  match t.get? k with
  | none => some (t.put k (.list [.table []]))
  | some (.list items) => some (t.put k (.list (items ++ [.table []])))
  | some _ => none

/-- Whether a value is written with its parts inside it. -/
def isWhole : Value → Bool
  | .list _ | .table _ => true
  | _ => false

/-- Whether a key lies in one of the given tables, or is one of them. -/
def liesIn (keys : List Key) (key : Key) : Bool :=
  keys.any fun k => k.isPrefixOf key

/-! ## Values -/

/-- The result of an operation that may not be allowed. -/
def allowed {α : Type} (a : Option α) : Except DataFault α :=
  match a with
  | some a => .ok a
  | none => malformed

mutual
/-- The value at the start of a text, and what follows it. -/
def value (fuel : Nat) (s : List Char) : Except DataFault (Value × List Char) :=
  match fuel with
  | 0 => malformed
  | fuel + 1 =>
    match s with
    | 't' :: 'r' :: 'u' :: 'e' :: r => .ok (.bool true, r)
    | 'f' :: 'a' :: 'l' :: 's' :: 'e' :: r => .ok (.bool false, r)
    | '[' :: r => do
      match ← skipLines r.length r with
      | ']' :: r => return (.list [], r)
      | r => items fuel [] r
    | '{' :: r =>
      match skip r with
      | '}' :: r => .ok (.table [], r)
      | r => entries fuel [] [] r
    | c :: r =>
      if isQuote c then (allowed (string? c r)).map fun (cs, r) => (.text (.ofList cs), r)
      else plain (c :: r)
    | [] => malformed
/-- The items of a list, behind those already read in reverse. -/
def items (fuel : Nat) (done : List Value) (s : List Char) : Except DataFault (Value × List Char) :=
  match fuel with
  | 0 => malformed
  | fuel + 1 => do
    let (v, r) ← value fuel s
    match ← skipLines r.length r with
    | ']' :: r => return (.list (v :: done).reverse, r)
    | ',' :: r =>
      match ← skipLines r.length r with
      | ']' :: r => return (.list (v :: done).reverse, r)
      | r => items fuel (v :: done) r
    | _ => malformed
/-- The entries of a table in braces, behind those already read; nothing can be added to the values under
the keys in `closed`. -/
def entries (fuel : Nat) (done : Table Value) (closed : List Key) (s : List Char) :
    Except DataFault (Value × List Char) :=
  match fuel with
  | 0 => malformed
  | fuel + 1 => do
    let (k, v, r) ← pair fuel s
    if liesIn closed k then malformed
    else
      let done ← allowed (within? false (setNew? (k.getLast?.getD "") v) k.dropLast done)
      match skip r with
      | '}' :: r => return (.table done, r)
      | ',' :: r => entries fuel done (if isWhole v then k :: closed else closed) (skip r)
      | _ => malformed
def pair (fuel : Nat) (s : List Char) : Except DataFault (Key × Value × List Char) :=
  match fuel with
  | 0 => malformed
  | fuel + 1 => do
    let (k, r) ← key (s.length + 1) s
    match r with
    | '=' :: r =>
      let (v, r) ← value fuel (skip r)
      return (k, v, r)
    | _ => malformed
end

/-! ## Documents -/

structure Document where
  root : Table Value := []
  /-- The key of the table that is open. -/
  header : Key := []
  /-- The keys of tables that no header may open any more. -/
  opened : List Key := []
  /-- The keys of tables that were opened by keys of several parts since the last header. -/
  pending : List Key := []
  /-- The keys of values that were written as one. -/
  closed : List Key := []

namespace Document

/-- The document before a header: what was opened by keys cannot be opened any more. -/
def settle (d : Document) : Document :=
  { d with opened := d.pending ++ d.opened, pending := [] }

def openTable? (d : Document) (key : Key) : Option Document :=
  if d.opened.contains key || liesIn d.closed key then none
  else
    (within? true some key d.root).map fun root =>
      { d with root, header := key, opened := key :: d.opened }

/-- Opens one more table of a list.  What had been opened in the table before it may be opened again. -/
def openItem? (d : Document) (key : Key) : Option Document :=
  if liesIn d.closed key then none
  else
    let isElsewhere := fun (k : Key) => !key.isPrefixOf k
    (within? true (appendTable? (key.getLast?.getD "")) key.dropLast d.root).map fun root =>
      { d with
        root, header := key
        opened := key :: d.opened.filter isElsewhere
        closed := d.closed.filter isElsewhere }

/-- Sets the value under a key of the table that is open. -/
def set? (d : Document) (key : Key) (v : Value) : Option Document :=
  let above := (List.range (key.length - 1)).map fun i => d.header ++ key.take (i + 1)
  let place := d.header ++ key.dropLast
  if above.any d.opened.contains || liesIn d.closed place then none
  else
    (within? true (setNew? (key.getLast?.getD "") v) place d.root).map fun root =>
      { d with
        root
        pending := above ++ d.pending
        closed := if isWhole v then (d.header ++ key) :: d.closed else d.closed }

/-- Reads the statement at the start of a text. -/
def statement (d : Document) (s : List Char) : Except DataFault (Document × List Char) := do
  match s with
  | '[' :: '[' :: r =>
    let (k, r) ← key (r.length + 1) (skip r)
    let d ← allowed (d.settle.openItem? k)
    match r with
    | ']' :: ']' :: r => return (d, r)
    | _ => malformed
  | '[' :: r =>
    let (k, r) ← key (r.length + 1) (skip r)
    let d ← allowed (d.settle.openTable? k)
    match r with
    | ']' :: r => return (d, r)
    | _ => malformed
  | s =>
    let (k, v, r) ← pair (2 * s.length + 2) s
    let d ← allowed (d.set? k v)
    return (d, r)

def statements (fuel : Nat) (d : Document) (s : List Char) : Except DataFault (Table Value) :=
  match fuel with
  | 0 => malformed
  | fuel + 1 => do
    match ← skipLines (s.length + 1) s with
    | [] => return d.root
    | s =>
      let (d, r) ← d.statement s
      let r ← endLine r
      statements fuel d r

end Document

/-- Turns every carriage return with line feed into a line feed. -/
def joinReturns : List Char → List Char
  | [] => []
  | '\r' :: '\n' :: s => '\n' :: joinReturns s
  | c :: s => c :: joinReturns s

def parse (text : List Char) : Except DataFault (Table Value) :=
  let s := joinReturns text
  Document.statements (s.length + 1) {} s

end Daihon.Toml

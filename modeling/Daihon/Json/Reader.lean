import Daihon.Decimal.Notation
import Daihon.Value.Fault

/-!
# Reading JSON

A reader for JSON texts.  A number with a point or an exponent is a float and any other an integer;
`NaN` and `Infinity` are read as floats.  An escaped surrogate that has no partner makes its text a broken
one.  A key written twice keeps its first place and takes its last value.  Nothing but blanks may follow
the value.

* `parse` reads a text in which integers may have so many digits at most, and tells what is wrong with
  it;
* `parse?` reads a text with integers of any size.
-/

namespace Daihon.Json

/-- The blanks that may stand between the parts of a JSON text. -/
def isBlank (c : Char) : Bool :=
  c == ' ' || c == '\n' || c == '\r' || c == '\t'

def skip (s : List Char) : List Char :=
  s.dropWhile isBlank

/-- A piece of a text: a character, or a code unit that has been written as an escape. -/
inductive Piece where
  | char (c : Char)
  | unit (n : Nat)
  deriving DecidableEq, Repr

/-- The character after a backslash, for the escapes of one letter. -/
def simpleEscape? (c : Char) : Option Char :=
  match c with
  | '"' => some '"'
  | '\\' => some '\\'
  | '/' => some '/'
  | 'b' => some '\x08'
  | 'f' => some '\x0c'
  | 'n' => some '\n'
  | 'r' => some '\r'
  | 't' => some '\t'
  | _ => none

/-- The pieces of a text after its opening quote, and what follows its closing quote. -/
def pieces? : List Char → Option (List Piece × List Char)
  | [] => none
  | '"' :: s => some ([], s)
  | '\\' :: 'u' :: a :: b :: c :: d :: s =>
    match Decimal.ofBase? 16 [a, b, c, d] with
    | some n => (pieces? s).map fun (ps, r) => (.unit n :: ps, r)
    | none => none
  | '\\' :: e :: s =>
    match simpleEscape? e with
    | some c => (pieces? s).map fun (ps, r) => (.char c :: ps, r)
    | none => none
  | c :: s =>
    if c.toNat < 32 || c = '\\' then none
    else (pieces? s).map fun (ps, r) => (.char c :: ps, r)

/-- Whether a code unit is the first of a surrogate pair. -/
def isHigh (n : Nat) : Bool :=
  0xD800 ≤ n && n ≤ 0xDBFF

/-- Whether a code unit is the second of a surrogate pair. -/
def isLow (n : Nat) : Bool :=
  0xDC00 ≤ n && n ≤ 0xDFFF

/-- The character of one code unit; a surrogate on its own belongs to none. -/
def ofUnit (n : Nat) : Option Char :=
  if isHigh n || isLow n then none else some (Char.ofNat n)

/-- The character of a surrogate pair. -/
def ofPair (high low : Nat) : Char :=
  Char.ofNat (0x10000 + (high - 0xD800) * 0x400 + (low - 0xDC00))

/-- The characters of a row of pieces, surrogate pairs taken together. -/
def characters : List Piece → List (Option Char)
  | [] => []
  | .char c :: ps => some c :: characters ps
  | .unit n :: .unit m :: ps =>
    if isHigh n && isLow m then some (ofPair n m) :: characters ps
    else ofUnit n :: characters (.unit m :: ps)
  | .unit n :: ps => ofUnit n :: characters ps

/-- The text after an opening quote, and what follows it. -/
def quotedText? (s : List Char) : Option (Value × List Char) :=
  (pieces? s).map fun (ps, r) => (.ofCharacters (characters ps), r)

/-- The digits at the start, and what follows them. -/
def spanDigits (s : List Char) : List Char × List Char :=
  (s.takeWhile Decimal.isDigit, s.dropWhile Decimal.isDigit)

/-- The fraction of a number: a point with at least one digit. -/
def fraction? : List Char → Option (List Char × List Char)
  | '.' :: s =>
    let (ds, r) := spanDigits s
    if ds.isEmpty then none else some (ds, r)
  | _ => none

/-- The exponent of a number: `e`, a sign perhaps, and at least one digit. -/
def exponent? : List Char → Option (Int × List Char)
  | e :: s =>
    if e == 'e' || e == 'E' then
      let (negative, s) := Decimal.signed s
      let (ds, r) := spanDigits s
      if ds.isEmpty then none else some (Decimal.withSign negative (Decimal.ofDigits ds), r)
    else none
  | [] => none

/-- The integer that digits spell, if they are not too many. -/
def integer (limit : Option Nat) (negative : Bool) (digits : List Char) : Except DataFault Value :=
  if limit.any fun n => n < digits.length then .error (.scalar (.longInteger digits.length))
  else .ok (.int (Decimal.withSign negative (Decimal.ofDigits digits)))

def unsigned (limit : Option Nat) (negative : Bool) (s : List Char) :
    Except DataFault (Value × List Char) :=
  let (whole, r) :=
    match s with
    | '0' :: r => (['0'], r)
    | s => spanDigits s
  if whole.isEmpty then malformed
  else
    let (fraction, r1) := (fraction? r).getD ([], r)
    match exponent? r1 with
    | some (e, r2) => .ok (.float (Decimal.ofParts negative whole fraction e), r2)
    | none =>
      if fraction.isEmpty then (integer limit negative whole).map fun v => (v, r1)
      else .ok (.float (Decimal.ofParts negative whole fraction 0), r1)

/-- A number, or one of the words for floats that are no finite numbers. -/
def number (limit : Option Nat) : List Char → Except DataFault (Value × List Char)
  | 'N' :: 'a' :: 'N' :: s => .ok (.float (0 / 0), s)
  | 'I' :: 'n' :: 'f' :: 'i' :: 'n' :: 'i' :: 't' :: 'y' :: s => .ok (.float (1 / 0), s)
  | '-' :: 'I' :: 'n' :: 'f' :: 'i' :: 'n' :: 'i' :: 't' :: 'y' :: s => .ok (.float (-1 / 0), s)
  | '-' :: s => unsigned limit true s
  | s => unsigned limit false s

mutual
/-- The value at the start of a text; `fuel` bounds the number of steps. -/
def value (limit : Option Nat) : Nat → List Char → Except DataFault (Value × List Char)
  | 0, _ => malformed
  | fuel + 1, s =>
    match s with
    | '"' :: r =>
      match quotedText? r with
      | some (v, r) => .ok (v, r)
      | none => malformed
    | '{' :: r =>
      match skip r with
      | '}' :: r => .ok (.table [], r)
      | r => entries limit fuel [] r
    | '[' :: r =>
      match skip r with
      | ']' :: r => .ok (.list [], r)
      | r => items limit fuel [] r
    | 'n' :: 'u' :: 'l' :: 'l' :: r => .ok (.null, r)
    | 't' :: 'r' :: 'u' :: 'e' :: r => .ok (.bool true, r)
    | 'f' :: 'a' :: 'l' :: 's' :: 'e' :: r => .ok (.bool false, r)
    | s => number limit s
/-- The items of a list after its opening bracket, behind those already read in reverse. -/
def items (limit : Option Nat) : Nat → List Value → List Char → Except DataFault (Value × List Char)
  | 0, _, _ => malformed
  | fuel + 1, done, s =>
    match value limit fuel s with
    | .error f => .error f
    | .ok (v, r) =>
      match skip r with
      | ',' :: r => items limit fuel (v :: done) (skip r)
      | ']' :: r => .ok (.list (v :: done).reverse, r)
      | _ => malformed
/-- The entries of a table after its opening brace, behind those already read. -/
def entries (limit : Option Nat) : Nat → Table Value → List Char → Except DataFault (Value × List Char)
  | 0, _, _ => malformed
  | fuel + 1, done, s =>
    match s with
    | '"' :: r =>
      match quotedText? r with
      | none => malformed
      | some (k, r) =>
        match skip r with
        | ':' :: r =>
          match value limit fuel (skip r) with
          | .error f => .error f
          | .ok (v, r) =>
            let done := done.put k.shown v
            match skip r with
            | ',' :: r => entries limit fuel done (skip r)
            | '}' :: r => .ok (.table done, r)
            | _ => malformed
        | _ => malformed
    | _ => malformed
end

/-- The value of a whole JSON text in which integers have `limit` digits at most. -/
def parse (limit : Option Nat) (s : List Char) : Except DataFault Value :=
  match value limit (s.length + 1) (skip s) with
  | .ok (v, r) => if (skip r).isEmpty then .ok v else malformed
  | .error f => .error f

def parse? (s : List Char) : Option Value :=
  (parse none s).toOption

end Daihon.Json

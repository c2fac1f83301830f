import Daihon.Decimal.Notation
import Daihon.Value.Fault

/-!
# Scalars of TOML

Strings, numbers, dates and times, each read from the start of a text together with what follows it.
Strings come in two kinds, basic ones with escapes and literal ones, and stand in one line or, between
three quotes, in several.
-/

namespace Daihon.Toml

def isGap (c : Char) : Bool :=
  c == ' ' || c == '\t'

def skip (s : List Char) : List Char :=
  s.dropWhile isGap

def skipAll (s : List Char) : List Char :=
  s.dropWhile fun c => isGap c || c == '\n'

/-- Whether `c` may stand in a comment or a string on one line. -/
def isAllowed (c : Char) : Bool :=
  c == '\t' || (32 ≤ c.toNat && c.toNat ≠ 127)

/-! ## Strings -/

/-- The character for a letter after a backslash. -/
def escape? (c : Char) : Option Char :=
  match c with
  | 'b' => some '\x08'
  | 't' => some '\t'
  | 'n' => some '\n'
  | 'f' => some '\x0c'
  | 'r' => some '\r'
  | '"' => some '"'
  | '\\' => some '\\'
  | _ => none

/-- The number of hexadecimal digits that the letter of an escape asks for. -/
def escapeLength? (c : Char) : Option Nat :=
  match c with
  | 'u' => some 4
  | 'U' => some 8
  | _ => none

/-- The character of a code, if it is one. -/
def ofCode? (n : Nat) : Option Char :=
  if n.isValidChar then some (Char.ofNat n) else none

/-- The character of an escape after its backslash, and what follows it. -/
def escaped? (s : List Char) : Option (Char × List Char) :=
  match s with
  | [] => none
  | e :: r =>
    match escape? e, escapeLength? e with
    | some c, _ => some (c, r)
    | none, some n =>
      let digits := r.take n
      if digits.length ≠ n then none
      else ((Decimal.ofBase? 16 digits).bind ofCode?).map fun c => (c, r.drop n)
    | none, none => none

/-- What follows a backslash that joins lines: blanks and line ends, of which one must stand before any
text. -/
def joint? (s : List Char) : Option (List Char) :=
  match skip s with
  | [] => if s.isEmpty then none else some []
  | '\n' :: r => some (skipAll r)
  | _ :: _ => none

/-- The number of quotes `q` at the start of `s`. -/
def quoteCount (q : Char) (s : List Char) : Nat :=
  (s.takeWhile fun c => c == q).length

/-- The rest of a basic string behind what has been read of it, in reverse, with at most `fuel`
steps. -/
def basic? (isLong : Bool) (fuel : Nat) (done : List Char) (s : List Char) :
    Option (List Char × List Char) :=
  match fuel, s with
  | 0, _ => none
  | _, [] => none
  | fuel + 1, c :: r =>
    if c = '"' then
      if !isLong then some (done.reverse, r)
      else
        let n := quoteCount c s
        if n < 3 then basic? isLong fuel (c :: done) r
        else
          let own := min (n - 3) 2
          some (done.reverse ++ List.replicate own c, s.drop (own + 3))
    else if c = '\\' then
      match if isLong then joint? r else none with
      | some r => basic? isLong fuel done r
      | none =>
        match escaped? r with
        | some (d, r) => basic? isLong fuel (d :: done) r
        | none => none
    else if isAllowed c || (isLong && c == '\n') then basic? isLong fuel (c :: done) r
    else none

/-- The rest of a literal string behind what has been read of it, in reverse. -/
def literal? (isLong : Bool) (done : List Char) (s : List Char) : Option (List Char × List Char) :=
  match s with
  | [] => none
  | c :: r =>
    if c = Text.singleQuote then
      if !isLong then some (done.reverse, r)
      else
        let n := quoteCount c s
        if n < 3 then literal? isLong (c :: done) r
        else
          let own := min (n - 3) 2
          some (done.reverse ++ List.replicate own c, s.drop (own + 3))
    else if isAllowed c || (isLong && c == '\n') then literal? isLong (c :: done) r
    else none

/-- Drops one line feed at the start. -/
def dropNewline (s : List Char) : List Char :=
  match s with
  | '\n' :: r => r
  | r => r

/-- The string that starts with the quote `q`, and what follows it; `r` is the text behind the
quote. -/
def string? (q : Char) (r : List Char) : Option (List Char × List Char) :=
  let isLong := 2 ≤ quoteCount q r
  let body := if isLong then dropNewline (r.drop 2) else r
  if q = '"' then basic? isLong (body.length + 1) [] body else literal? isLong [] body

def isQuote (c : Char) : Bool :=
  c == '"' || c == Text.singleQuote

/-! ## Dates and times -/

/-- The number that exactly `n` digits at the start of a text spell, if it lies between `least` and
`most`. -/
def number? (n least most : Nat) (s : List Char) : Option (Nat × List Char) :=
  let digits := s.take n
  let value := Decimal.ofDigits digits
  if digits.length = n && digits.all Decimal.isDigit && least ≤ value && value ≤ most then
    some (value, s.drop n)
  else none

/-- What follows the character `c`, if it stands at the start. -/
def past? (c : Char) (s : List Char) : Option (List Char) :=
  match s with
  | d :: r => if d = c then some r else none
  | [] => none

/-- A time of day as it is written, with the digits behind the point of the seconds. -/
structure WrittenTime where
  hour : Nat
  minute : Nat
  second : Nat
  fraction : List Char

/-- The time of day at the start of a text. -/
def time? (s : List Char) : Option (WrittenTime × List Char) := do
  let (hour, s) ← number? 2 0 23 s
  let (minute, s) ← (past? ':' s).bind (number? 2 0 59)
  let (second, s) ← (past? ':' s).bind (number? 2 0 59)
  match s with
  | '.' :: r =>
    let digits := r.takeWhile Decimal.isDigit
    if digits.isEmpty then return (⟨hour, minute, second, []⟩, s)
    else return (⟨hour, minute, second, digits⟩, r.drop digits.length)
  | s => return (⟨hour, minute, second, []⟩, s)

def WrittenTime.value (t : WrittenTime) : Except MomentError Time :=
  Time.of t.hour t.minute t.second (microsOf t.fraction)

/-- The zone at the start of a text: `Z`, or a sign with hours and minutes. -/
def zone? (s : List Char) : Option (Int × List Char) :=
  match s with
  | c :: r =>
    if c = 'Z' || c = 'z' then some (0, r)
    else if c = '+' || c = '-' then do
      let (hours, r) ← number? 2 0 23 r
      let (minutes, r) ← (past? ':' r).bind (number? 2 0 59)
      return (Decimal.withSign (c == '-') (3600 * hours + 60 * minutes), r)
    else none
  | [] => none

/-- The numbers of the date at the start of a text. -/
def date? (s : List Char) : Option ((Nat × Nat × Nat) × List Char) := do
  let (year, s) ← number? 4 0 9999 s
  let (month, s) ← (past? '-' s).bind (number? 2 1 12)
  let (day, s) ← (past? '-' s).bind (number? 2 1 31)
  return ((year, month, day), s)

/-- The time of day behind a date, after a `T` or a space. -/
def timeBehindDate? (s : List Char) : Option (WrittenTime × List Char) :=
  match s with
  | c :: r => if c = 'T' || c = 't' || c = ' ' then time? r else none
  | [] => none

/-- The date at the start of a text, perhaps with a time and a zone. -/
def dateTime? (s : List Char) : Option (Except MomentError Moment × List Char) := do
  let ((year, month, day), s) ← date? s
  let date := Date.of year month day
  match timeBehindDate? s with
  | none => return (date.map .date, s)
  | some (t, s) =>
    let (offset, s) :=
      match zone? s with
      | some (offset, s) => (some offset, s)
      | none => (none, s)
    let moment := do
      let d ← date
      let t ← t.value
      return Moment.both d t offset
    return (moment, s)

/-! ## Numbers -/

/-- A row of digits at the start of a text, with single underscores between them: the digits, and what
follows them. -/
def digitRow (isDigit : Char → Bool) (s : List Char) : List Char × List Char :=
  let rec more (done : List Char) : List Char → List Char × List Char
    | '_' :: c :: r => if isDigit c then more (c :: done) r else (done.reverse, '_' :: c :: r)
    | c :: r => if isDigit c then more (c :: done) r else (done.reverse, c :: r)
    | [] => (done.reverse, [])
  match s with
  | c :: r => if isDigit c then more [c] r else ([], s)
  | [] => ([], [])

/-- The integer at the start of a text that is written in another base than ten. -/
def based? (s : List Char) : Option (Value × List Char) :=
  let read := fun (base : Nat) (r : List Char) =>
    let (digits, rest) := digitRow (fun c => (Decimal.hexValue? c).any fun v => v < base) r
    (Decimal.ofBase? base digits).map fun n => (Value.int n, rest)
  match s with
  | '0' :: 'x' :: r => read 16 r
  | '0' :: 'o' :: r => read 8 r
  | '0' :: 'b' :: r => read 2 r
  | _ => none

/-- The fraction of a number at the start of a text: a point and digits. -/
def fraction (s : List Char) : List Char × List Char :=
  match s with
  | '.' :: r =>
    let (digits, rest) := digitRow Decimal.isDigit r
    if digits.isEmpty then ([], s) else (digits, rest)
  | s => ([], s)

/-- The exponent of a number at the start of a text. -/
def exponent? (s : List Char) : Option (Int × List Char) :=
  match s with
  | e :: r =>
    if e = 'e' || e = 'E' then
      let (negative, r) := Decimal.signed r
      let (digits, rest) := digitRow Decimal.isDigit r
      if digits.isEmpty then none
      else some (Decimal.withSign negative (Decimal.ofDigits digits), rest)
    else none
  | [] => none

/-- The decimal number at the start of a text; it has no leading zeros. -/
def decimal? (s : List Char) : Option (Except ScalarFault Value × List Char) :=
  let (negative, r) := Decimal.signed s
  let (whole, r) :=
    match r with
    | '0' :: r => (['0'], r)
    | r => digitRow Decimal.isDigit r
  if whole.isEmpty then none
  else
    let (part, r) := fraction r
    match exponent? r with
    | some (e, r) => some (.ok (.float (Decimal.ofParts negative whole part e)), r)
    | none =>
      if part.isEmpty then some ((integerOfDigits negative whole).map .int, r)
      else some (.ok (.float (Decimal.ofParts negative whole part 0)), r)

/-- The word for a float that is no finite number, at the start of a text. -/
def special? (s : List Char) : Option (Value × List Char) :=
  let (negative, r) := Decimal.signed s
  match r with
  | 'i' :: 'n' :: 'f' :: r => some (.float (if negative then -1 / 0 else 1 / 0), r)
  | 'n' :: 'a' :: 'n' :: r => some (.float (0 / 0), r)
  | _ => none

/-- The date, time, number or word at the start of a text, and what follows it. -/
def plain (s : List Char) : Except DataFault (Value × List Char) :=
  match dateTime? s with
  | some (.ok m, r) => .ok (.moment m, r)
  | some (.error _, _) => malformed
  | none =>
    match time? s with
    | some (t, r) =>
      match t.value with
      | .ok t => .ok (.moment (.time t), r)
      | .error _ => malformed
    | none =>
      match based? s, decimal? s, special? s with
      | some r, _, _ => .ok r
      | none, some (.ok v, r), _ => .ok (v, r)
      | none, some (.error f, _), _ => .error (.scalar f)
      | none, none, some r => .ok r
      | none, none, none => malformed

end Daihon.Toml

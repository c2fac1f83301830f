import Daihon.Config.Yaml.Node
import Daihon.Decimal.Notation
import Daihon.Text.Blank
import Daihon.Text.Case

/-!
# Scalars as values

The form of a plain scalar gives its type, and its type says how its text is read.  Underscores in
numbers count for nothing, and numbers may be written in base sixty with colons.  Forms and readings are those of
the type repository of YAML 1.1, in which the words for truth values include `yes`, `no`, `on` and `off` but not
single letters.

* `Tag.ofPlain` is the type of a plain scalar;
* `scalarValue` is the value of a text of a given type.
-/

namespace Daihon.Yaml

/-! ## Forms -/

def switchWords : List (String × Bool) :=
  [("yes", true), ("true", true), ("on", true), ("no", false), ("false", false), ("off", false)]

def nullWords : List String :=
  ["~", "null", "Null", "NULL", ""]

/-- A word in lower case, with a capital first letter, or in capitals. -/
def spellings (word : String) : List String :=
  let upper := word.toList.map Char.toUpper
  [word, .ofList (upper.take 1 ++ word.toList.drop 1), .ofList upper]

/-- Whether `s` is a word for a truth value. -/
def isSwitch (s : List Char) : Bool :=
  switchWords.any fun w => (spellings w.1).contains (.ofList s)

/-- The parts of a text between its colons. -/
def colonParts : List Char → List (List Char)
  | [] => [[]]
  | c :: s =>
    if c = ':' then [] :: colonParts s
    else
      match colonParts s with
      | [] => [[c]]
      | p :: ps => (c :: p) :: ps

/-- Whether a part of a number in base sixty is a number below sixty. -/
def isSixtieth (s : List Char) : Bool :=
  match s with
  | [a] => Decimal.isDigit a
  | [a, b] => '0' ≤ a && a ≤ '5' && Decimal.isDigit b
  | _ => false

/-- Whether `c` is a digit or an underscore. -/
def isPart (c : Char) : Bool :=
  Decimal.isDigit c || c == '_'

/-- Whether `s` is not empty and all its characters are underscores or satisfy `p`. -/
def isGroup (p : Char → Bool) (s : List Char) : Bool :=
  !s.isEmpty && s.all fun c => p c || c == '_'

/-- Whether `s` has the form of an integer: binary, octal, decimal, hexadecimal or in base sixty. -/
def isInt (s : List Char) : Bool :=
  match (Decimal.signed s).2 with
  | ['0'] => true
  | '0' :: 'b' :: ds => isGroup (fun c => c == '0' || c == '1') ds
  | '0' :: 'x' :: ds => isGroup (fun c => (Decimal.hexValue? c).isSome) ds
  | '0' :: ds => isGroup (fun c => '0' ≤ c && c ≤ '7') ds
  | c :: ds =>
    Decimal.isDigit c &&
      match colonParts ds with
      | first :: rest => first.all isPart && rest.all isSixtieth
      | [] => false
  | [] => false

/-- Whether `s` is nothing or the exponent of a float: `e`, a sign, and digits. -/
def isExponent (s : List Char) : Bool :=
  match s with
  | [] => true
  | e :: sign :: ds =>
    (e == 'e' || e == 'E') && (sign == '+' || sign == '-') && !ds.isEmpty && ds.all Decimal.isDigit
  | _ => false

/-- Whether `s` has the form of a float: it has a point, and an exponent only with a sign. -/
def isFloat (s : List Char) : Bool :=
  let word := String.ofList (Decimal.signed s).2
  [".inf", ".Inf", ".INF"].contains word || [".nan", ".NaN", ".NAN"].contains (String.ofList s) ||
    match s, (Decimal.signed s).2 with
    | '.' :: d :: ds, _ => Decimal.isDigit d && isExponent (ds.dropWhile isPart)
    | _, d :: ds =>
      Decimal.isDigit d &&
        match ds.dropWhile isPart with
        | '.' :: rest => isExponent (rest.dropWhile isPart)
        | ':' :: more =>
          match more.dropWhile fun c => c != '.' with
          | '.' :: rest =>
            (colonParts (more.takeWhile fun c => c != '.')).all isSixtieth && rest.all isPart
          | _ => false
        | _ => false
    | _, [] => false

/-- The number that a text of so many digits spells, and what follows it. -/
def number? (least most : Nat) (s : List Char) : Option (Nat × List Char) :=
  let digits := (s.takeWhile Decimal.isDigit).take most
  if digits.length < least then none
  else some (Decimal.ofDigits digits, s.drop digits.length)

/-- What follows a character, if it stands at the start. -/
def past? (c : Char) (s : List Char) : Option (List Char) :=
  match s with
  | d :: r => if d = c then some r else none
  | [] => none

/-- A date with a time of day, as it is written: numbers, digits behind the point of the seconds, and the
zone. -/
structure WrittenTime where
  hour : Nat
  minute : Nat
  second : Nat
  fraction : List Char
  offset : Option Int

/-- The zone of a time: none, `Z`, or a sign with hours and perhaps minutes.  Blanks may stand before
it. -/
def zone? (s : List Char) : Option (Option Int) :=
  let r := s.dropWhile isGap
  match r with
  | [] => if s.isEmpty then some none else none
  | ['Z'] => some (some 0)
  | sign :: r =>
    if sign ≠ '+' && sign ≠ '-' then none
    else do
      let (hours, r) ← number? 1 2 r
      let minutes ←
        match r with
        | [] => some 0
        | c :: r =>
          match (if c = ':' then number? 2 2 r else none) with
          | some (n, []) => some n
          | _ => none
      return some (Decimal.withSign (sign == '-') (3600 * hours + 60 * minutes))

/-- A time of day behind a date: a `T` or blanks, numbers with colons between them, and perhaps a
fraction and a zone. -/
def time? (s : List Char) : Option WrittenTime := do
  let s ←
    match s with
    | c :: r =>
      if c = 'T' || c = 't' then some r
      else if isGap c then some (r.dropWhile isGap)
      else none
    | [] => none
  let (hour, s) ← number? 1 2 s
  let (minute, s) ← (past? ':' s).bind (number? 2 2)
  let (second, s) ← (past? ':' s).bind (number? 2 2)
  let (fraction, s) :=
    match s with
    | '.' :: r => (r.takeWhile Decimal.isDigit, r.dropWhile Decimal.isDigit)
    | s => ([], s)
  let offset ← zone? s
  return ⟨hour, minute, second, fraction, offset⟩

/-- The numbers of a moment as it is written: year, month and day, perhaps with a time. -/
structure WrittenMoment where
  year : Nat
  month : Nat
  day : Nat
  time : Option WrittenTime

/-- The moment that a text writes; month and day may have one digit. -/
def moment? (s : List Char) : Option WrittenMoment := do
  let (year, s) ← number? 4 4 s
  let (month, s) ← (past? '-' s).bind (number? 1 2)
  let (day, s) ← (past? '-' s).bind (number? 1 2)
  if s.isEmpty then return ⟨year, month, day, none⟩
  else
    let t ← time? s
    return ⟨year, month, day, some t⟩

/-- Whether `s` has the form of a moment; a date by itself has two digits for month and day. -/
def isMoment (s : List Char) : Bool :=
  match moment? s with
  | some m => m.time.isSome || s.length == 10
  | none => false

def Tag.ofPlain (s : List Char) : Tag :=
  if isSwitch s then .bool
  else if isFloat s then .float
  else if isInt s then .int
  else if s == ['<', '<'] then .merge
  else if nullWords.contains (String.ofList s) then .null
  else if isMoment s then .moment
  else if s == ['='] then .default
  else .text

/-! ## Values -/

/-- The value of a scalar, or why its text spells none. -/
abbrev Reading := Except ScalarFault Value

/-- The characters that tell the base of an integer. -/
def baseMark? (base : Nat) : Option Char :=
  if base = 2 then some 'b' else if base = 8 then some 'o' else if base = 16 then some 'x' else none

/-- Digits without the mark of their base in front of them. -/
def withoutMark (base : Nat) (s : List Char) : List Char :=
  match s with
  | '0' :: m :: r => if baseMark? base == some m.toLower then r else s
  | s => s

/-- The integer that digits spell in a base, with a sign and blanks around them. -/
def integer (base : Nat) (s : List Char) : Except ScalarFault Int :=
  let (negative, digits) := Decimal.signed (Text.trim s)
  match Decimal.ofBase? base (withoutMark base digits) with
  | none => .error (.integer base (.ofList s))
  | some n =>
    if base = 10 && digitLimit < digits.length then .error (.longInteger digits.length)
    else .ok (Decimal.withSign negative n)

/-- The float that a text spells, with a sign and blanks around it. -/
def float (s : List Char) : Except ScalarFault Float :=
  match Decimal.floatOf? (Text.trim s) with
  | some x => .ok x
  | none => .error (.float (.ofList s))

/-- The sum of numbers in base sixty, the most significant one first. -/
def sexagesimal (parts : List Int) : Int :=
  parts.foldl (fun n part => 60 * n + part) 0

/-- The sum of floats in base sixty, the most significant one first. -/
def sexagesimalFloat (parts : List Float) : Float :=
  (parts.reverse.foldl
    (fun (sum, base) part => (sum + part * Decimal.toFloat false base 0, base * 60))
    ((0 : Float), (1 : Nat))).1

def natural (s : List Char) : Except ScalarFault Int :=
  match s with
  | [] => .error .empty
  | ['0'] => .ok 0
  | '0' :: 'b' :: ds => integer 2 ds
  | '0' :: 'x' :: ds => integer 16 ds
  | '0' :: ds => integer 8 ('0' :: ds)
  | s =>
    if s.contains ':' then ((colonParts s).mapM (integer 10)).map sexagesimal else integer 10 s

/-- Whether a number has a minus sign, and what follows its sign; the text must not be empty. -/
def split (s : List Char) : Except ScalarFault (Bool × List Char) :=
  if s.isEmpty then .error .empty else .ok (Decimal.signed s)

def dropUnderscores (s : List Char) : List Char :=
  s.filter fun c => c != '_'

def intValue (s : List Char) : Reading := do
  let (negative, s) ← split (dropUnderscores s)
  let n ← natural s
  return .int (if negative then -n else n)

def floatValue (s : List Char) : Reading := do
  let (negative, s) ← split (Text.lower (.ofList (dropUnderscores s))).toList
  let x ←
    if s == ['.', 'i', 'n', 'f'] then .ok (1 / 0)
    else if s == ['.', 'n', 'a', 'n'] then .ok (0 / 0)
    else if s.contains ':' then ((colonParts s).mapM float).map sexagesimalFloat
    else float s
  return .float (if negative then -x else x)

/-- The value of a word for true or false. -/
def switchValue (s : List Char) : Reading :=
  let word := Text.lower (.ofList s)
  match switchWords.find? fun w => w.1 == word with
  | some (_, b) => .ok (.bool b)
  | none => .error (.switch word)

def WrittenMoment.value (m : WrittenMoment) : Except MomentError Moment :=
  match m.time with
  | none => (Date.of m.year m.month m.day).map .date
  | some t => do
    let offset ←
      match t.offset with
      | none => pure none
      | some seconds => (offsetOf seconds).map some
    let d ← Date.of m.year m.month m.day
    let time ← Time.of t.hour t.minute t.second (microsOf t.fraction)
    return .both d time offset

def momentValue (s : List Char) : Reading :=
  match moment? s with
  | none => .error .noMoment
  | some m =>
    match m.value with
    | .ok m => .ok (.moment m)
    | .error e => .error (.moment e)

/-! ### Bytes -/

/-- The number that a character stands for in base 64. -/
def sextet? (c : Char) : Option Nat :=
  if 'A' ≤ c && c ≤ 'Z' then some (c.toNat - 'A'.toNat)
  else if 'a' ≤ c && c ≤ 'z' then some (c.toNat - 'a'.toNat + 26)
  else if Decimal.isDigit c then some (Decimal.digitValue c + 52)
  else if c = '+' then some 62
  else if c = '/' then some 63
  else none

/-- The bytes of a text in base 64, behind those read so far, in reverse.  `phase` counts the characters
of the group that is open, `left` holds the bits that are left of them, and `pads` counts the signs of
equality in a row.  Other characters are passed over; the groups must be complete. -/
def base64 (phase left pads : Nat) (done : List UInt8) : List Char → Option (List UInt8)
  | [] => if phase = 0 then some done.reverse else none
  | c :: s =>
    if c = '=' then
      if 2 ≤ phase && 4 ≤ phase + pads + 1 then some done.reverse
      else base64 phase left (if 2 ≤ phase then pads + 1 else pads) done s
    else
      match sextet? c with
      | none => base64 phase left pads done s
      | some n =>
        if phase = 0 then base64 1 n 0 done s
        else if phase = 1 then base64 2 (n % 16) 0 (.ofNat (left * 4 + n / 16) :: done) s
        else if phase = 2 then base64 3 (n % 4) 0 (.ofNat (left * 16 + n / 4) :: done) s
        else base64 0 0 0 (.ofNat (left * 64 + n) :: done) s

/-- The value of bytes in base 64. -/
def bytesValue (s : List Char) : Except DataFault Value :=
  if s.any fun c => 128 ≤ c.toNat then malformed
  else
    match base64 0 0 0 [] s with
    | some bs => .ok (.bytes bs)
    | none => malformed

/-- A reading of a scalar as a reading of a node. -/
def ofReading (r : Reading) : Except DataFault Value :=
  match r with
  | .ok v => .ok v
  | .error f => .error (.scalar f)

/-- The value of a text of the given type. -/
def scalarValue (t : Tag) (s : List Char) : Except DataFault Value :=
  match t with
  | .null => .ok .null
  | .bool => ofReading (switchValue s)
  | .int => ofReading (intValue s)
  | .float => ofReading (floatValue s)
  | .text => .ok (.text (.ofList s))
  | .brokenText => .ok (.brokenText (.ofList s))
  | .bytes => bytesValue s
  | .moment => ofReading (momentValue s)
  | .list | .pairs | .mapping | .set | .merge | .default | .unknown => malformed

end Daihon.Yaml

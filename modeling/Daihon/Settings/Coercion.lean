import Daihon.Decimal.Notation
import Daihon.Failure
import Daihon.Files.Expansion
import Daihon.Settings.Field
import Daihon.Text.Blank
import Daihon.Text.Case
import Daihon.Text.Search
import Daihon.Value.Key

/-!
# Reading the values of fields

What may be given for each type of field, and what it is read as.  A value that does not fit is refused with
its reason.

Types of fields are those of the library that checks settings.  Of its lax mode, in which it runs here, it
documents the following, and no more than that is assumed of it:

* a switch is given as such, as a number equal to 0 or 1, or as one of a few words in any case (`flag`,
  `switchWords`);
* a whole number is given as such, as a switch, as a float that has no fraction and 64 bits at most, or as a
  text with blanks, a sign, single underscores and a fraction of zeros, of at most `digitLimit` digits (`int`);
* a float is given as a number, a switch, or a text in decimal or exponent form or with a word for what is not
  finite (`float`);
* a text is given as such or as the bytes of its UTF-8 form (`text`);
* a table of texts is given as a table, and each of its keys and values is read as a text (`names`);
* bounds are checked on what has been read (`size`, `offset`, `volume`), and patterns on what the field has made
  of it (`level`, `format`).

What a level, a format and a file may be is up to the program itself.
-/

namespace Daihon

/-- Why a value for a field does not come about: it is refused, or reading it fails as a whole. -/
inductive Rejection where
  | refused (problems : List (List String × Refusal))
  | failed (f : Failure)

def Rejection.ofRefusal (r : Refusal) : Rejection :=
  .refused [([], r)]

/-- What becomes of a value given for a field. -/
abbrev Reading (α : Type) := Except Rejection α

def refuse {α : Type} (r : Refusal) : Reading α :=
  .error (.ofRefusal r)

namespace Coercion

/-! ## Texts and bytes -/

def textOfBytes? (bs : List UInt8) : Option String :=
  (Encoding.Utf8.decode bs).toOption.map String.ofList

/-- A reading that refuses what is missing. -/
def orRefuse {α : Type} (r : Refusal) (a : Option α) : Reading α :=
  match a with
  | some a => .ok a
  | none => refuse r

/-- The text that a value gives, if it gives one.  A broken text is refused as such, and bytes that spell
no text with the reason `bad`. -/
def asText? (bad : Refusal) : Value → Option (Reading String)
  | .text s => some (.ok s)
  | .brokenText _ => some (refuse .textBytes)
  | .bytes bs => some (orRefuse bad (textOfBytes? bs))
  | _ => none

def text (v : Value) : Reading String :=
  (asText? .textBytes v).getD (refuse .textType)

/-! ## Switches -/

def switchWords : List (String × Bool) :=
  [("1", true), ("true", true), ("t", true), ("yes", true), ("y", true), ("on", true),
    ("0", false), ("false", false), ("f", false), ("no", false), ("n", false), ("off", false)]

def switch? (s : String) : Option Bool :=
  Table.get? switchWords (Text.lowerAscii s)

def switchOfInt? (n : Int) : Option Bool :=
  if n = 0 then some false else if n = 1 then some true else none

/-- Whether an integer has 64 bits. -/
def isInt64 (n : Int) : Bool :=
  -0x8000000000000000 ≤ n && n < 0x8000000000000000

/-- The integer that a float is equal to, if it lies strictly within 64 bits. -/
def smallInt? (x : Float) : Option Int :=
  (Decimal.toInt? x).filter fun n => -0x8000000000000000 < n && n < 0x8000000000000000

/-- A switch: a truth value, a word, or the number 0 or 1. -/
def flag (v : Value) : Reading Bool :=
  match asText? .boolText v, v with
  | some s, _ => s.bind fun s => orRefuse .boolText (switch? s)
  | none, .bool b => .ok b
  | none, .int n => if isInt64 n then orRefuse .boolText (switchOfInt? n) else refuse .boolType
  | none, .float x =>
    match smallInt? x with
    | some n => orRefuse .boolText (switchOfInt? n)
    | none => refuse .boolType
  | none, _ => refuse .boolType

/-! ## Whole numbers -/

/-- A text without its underscores, if they stand one by one between other characters and there are
any. -/
def withoutUnderscores? (s : List Char) : Option (List Char) :=
  if s.head? == some '_' || s.getLast? == some '_' || !s.contains '_' || Text.contains ['_', '_'] s then
    none
  else some (s.filter fun c => c != '_')

/-- The integer that a text is, without leading zeros and with a minus sign at most.  A longer row of
digits than are read is refused as such, and everything else as no integer. -/
def plainInt (s : List Char) : Except Refusal Int :=
  let (negative, r) :=
    match s with
    | '-' :: r => (true, r)
    | r => (false, r)
  let digits := r.takeWhile Decimal.isDigit
  let isWhole := digits.length = r.length
  match digits with
  | [] => .error .intText
  | ['0'] => if isWhole then .ok 0 else .error .intText
  | '0' :: _ => .error .intText
  | ds =>
    if digitLimit < s.length - (r.length - ds.length) then .error .intRange
    else if isWhole then .ok (Decimal.withSign negative (Decimal.ofDigits ds))
    else .error .intText

/-- A number without leading zeros: a zero stays at the end and before a point.  Underscores between
zeros are dropped with them; a number with a sign stays as it is. -/
def dropZeros? (s : List Char) : Option (List Char) :=
  let rec go (last : Char) : List Char → Option (List Char)
    | [] => some [last]
    | c :: r =>
      if c = '0' || c = '_' then go c r
      else if Decimal.isDigit c then some (c :: r)
      else if c = '.' then some (last :: c :: r)
      else none
  match s with
  | '0' :: r => go '0' r
  | '-' :: r => some ('-' :: r)
  | c :: r => if Decimal.isDigit c then some (c :: r) else none
  | [] => none

/-- A number without a point and zeros at its end. -/
def dropFraction (s : List Char) : List Char :=
  match s.dropWhile fun c => c != '.' with
  | _ :: zeros =>
    if !zeros.isEmpty && zeros.all (· == '0') then s.takeWhile fun c => c != '.' else s
  | [] => s

/-- A text without what may stand around and within the digits of an integer: blanks, a plus sign,
leading zeros, a fraction of zeros and underscores. -/
def cleanInt? (s : List Char) : Option (List Char) :=
  let s := Text.trimWhile Text.isSpace s
  let s :=
    match s with
    | '+' :: r => r
    | r => r
  (dropZeros? s).map fun s =>
    let s := dropFraction s
    (withoutUnderscores? s).getD s

def intText (s : List Char) : Except Refusal Int :=
  match plainInt s, cleanInt? s with
  | .ok n, _ => .ok n
  | .error .intRange, _ => .error .intRange
  | .error _, some clean => plainInt clean
  | .error e, none => .error e

/-- A whole number: an integer, a truth value as 0 or 1, a float without fraction, or a text. -/
def int (v : Value) : Reading Int :=
  match asText? .intText v, v with
  | some s, _ => s.bind fun s => (intText s.toList).mapError .ofRefusal
  | none, .int n => .ok n
  | none, .bool b => .ok (if b then 1 else 0)
  | none, .float x =>
    if x.isNaN || x.isInf then refuse .intFinite
    else
      match Decimal.toInt? x, smallInt? x with
      | none, _ => refuse .intFraction
      | some _, none => refuse .intRange
      | some _, some n => .ok n
  | none, _ => refuse .intType

def size (v : Value) : Reading Size :=
  match int v with
  | .error e => .error e
  | .ok n => if h : 0 < n.toNat then .ok ⟨n.toNat, h⟩ else refuse .notPositive

def offset (v : Value) : Reading Nat :=
  match int v with
  | .error e => .error e
  | .ok n => if 0 ≤ n then .ok n.toNat else refuse .belowMinimum

/-! ## Volumes -/

def plainFloat? (s : List Char) : Option Float :=
  if s.contains '_' then none else Decimal.floatOf? s

/-- A float given as text, with blanks around it or with underscores in it. -/
def floatText? (s : List Char) : Option Float :=
  (plainFloat? (Text.trimWhile Text.isSpace s)).or ((withoutUnderscores? s).bind plainFloat?)

/-- Whether an integer rounds to a finite float. -/
def fitsFloat (n : Int) : Bool :=
  n.natAbs < Nat.pow 2 1024 - Nat.pow 2 970

/-- A float: a number, a truth value as 0 or 1, or a text. -/
def float (v : Value) : Reading Float :=
  match asText? .floatText v, v with
  | some s, _ => s.bind fun s => orRefuse .floatText (floatText? s.toList)
  | none, .float x => .ok x
  | none, .int n =>
    if fitsFloat n then .ok (Decimal.toFloat (n < 0) n.natAbs 0) else refuse .floatType
  | none, .bool b => .ok (if b then 1 else 0)
  | none, _ => refuse .floatType

/-- A volume: a float between 0 and 1.  What compares with nothing is above the maximum. -/
def volume (v : Value) : Reading Volume :=
  match float v with
  | .error e => .error e
  | .ok x =>
    if high : x ≤ 1 then
      if low : 0 ≤ x then .ok ⟨x, low, high⟩ else refuse .belowMinimum
    else refuse .aboveMaximum

/-! ## Tables -/

/-- A key as it is shown in the place of a problem. -/
def shownKey : Value → String
  | .bool b => if b then "1" else "0"
  | v => v.shown

/-- What stands in the place of a problem with a key itself. -/
def keyMark : String := "[key]"

/-- A reading of a text, and its problems, which lie at the given place. -/
def placedText (place : List String) (v : Value) : Option String × List (List String × Refusal) :=
  match text v with
  | .ok s => (some s, [])
  | .error (.refused ps) => (none, ps.map fun p => (place ++ p.1, p.2))
  | .error (.failed _) => (none, [])

/-- The texts of the entries of a table, and the problems with its keys and values. -/
def textEntries : List (Value × Value) → List (String × String) × List (List String × Refusal)
  | [] => ([], [])
  | (k, v) :: es =>
    let (texts, problems) := textEntries es
    let (key, keyProblems) := placedText [shownKey k, keyMark] k
    let (value, valueProblems) := placedText [shownKey k] v
    (((key.bind fun k => value.map fun v => (k, v)).toList ++ texts),
      keyProblems ++ valueProblems ++ problems)

def names (v : Value) : Reading (Table String) :=
  match v.pairs? with
  | none => refuse .tableType
  | some es =>
    match textEntries es with
    | (texts, []) => .ok (Table.ofEntries texts)
    | (_, problems) => .error (.refused problems)

/-! ## Levels, formats and files -/

/-- The refusal of a value that must be a text. -/
def mustBeText (field : String) (v : Value) : Refusal :=
  .custom (field ++ " must be a string, got " ++ v.typeName)

/-- A level, named in any case. -/
def level : Value → Reading Level
  | .text s =>
    match Level.ofCapitals? (Text.upper s) with
    | some l => .ok l
    | none => refuse .pattern
  | .brokenText _ => refuse .textBytes
  | v => refuse (mustBeText "log_level" v)

/-- A format of log lines, named in any case. -/
def format : Value → Reading LogFormat
  | .text s =>
    match LogFormat.ofName? (Text.lower s) with
    | some f => .ok f
    | none => refuse .pattern
  | .brokenText _ => refuse .textBytes
  | v => refuse (mustBeText "log_format" v)

/-- The refusal of a value that must be a path. -/
def mustBePath (v : Value) : Refusal :=
  .custom
    ("Path fields must be string or Path. Got " ++ v.typeName ++ ": " ++ .ofList v.literal)

/-- A file: nothing, a text that is expanded and resolved, or a path that is resolved again. -/
def file (s : Surroundings) : Given → Reading (Option AbsolutePath)
  | .data .null => .ok none
  | .data (.text t) =>
    match s.resolve t with
    | .ok p => .ok (some p)
    | .error .noHome => .error (.failed .noHome)
    | .error .nullCharacter => refuse (.custom "embedded null byte")
  | .data (.brokenText _) => refuse (.custom "surrogates not allowed")
  | .data v => refuse (mustBePath v)
  | .file p => .ok (some (.resolve p.parts))

/-- The value of a field of type `t` that `g` is read as. -/
def read (s : Surroundings) : (t : FieldType) → Given → Reading t.Carrier
  | .flag, g => flag g.value
  | .level, g => level g.value
  | .format, g => format g.value
  | .file, g => file s g
  | .text, g => text g.value
  | .volume, g => volume g.value
  | .size, g => size g.value
  | .offset, g => offset g.value
  | .names, g => names g.value

end Coercion

end Daihon

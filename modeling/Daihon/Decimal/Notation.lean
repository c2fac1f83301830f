import Daihon.Decimal.Digits
import Daihon.Decimal.Shortest

/-!
# Writing and reading floats

A float is written with the fewest digits that read back as it: positionally from `1e-4` up to below
`1e16`, and otherwise with an exponent of a sign and at least two digits.  A number is read as the
float nearest to it.
-/

namespace Daihon.Decimal

/-- The digits of `n`, most significant first. -/
def digitsOf (n : Nat) : List Char :=
  Nat.toDigits 10 n

def twoDigits (n : Nat) : List Char :=
  if n < 10 then '0' :: digitsOf n else digitsOf n

def Scientific.positional (s : Scientific) : List Char :=
  let ds := digitsOf s.digits
  let point := s.exponent + ds.length
  if 0 ≤ s.exponent then ds ++ List.replicate s.exponent.toNat '0' ++ ['.', '0']
  else if 0 < point then ds.take point.toNat ++ '.' :: ds.drop point.toNat
  else '0' :: '.' :: (List.replicate (-point).toNat '0' ++ ds)

/-- Writes a decimal as one digit, the other digits after a point, and an exponent. -/
def Scientific.exponential (s : Scientific) : List Char :=
  let ds := digitsOf s.digits
  let e := s.exponent + ds.length - 1
  let tail := ds.drop 1
  let mantissa := ds.take 1 ++ (if tail.isEmpty then [] else '.' :: tail)
  mantissa ++ 'e' :: (if e < 0 then '-' else '+') :: twoDigits e.natAbs

def Scientific.chars (s : Scientific) : List Char :=
  let point := s.exponent + (digitsOf s.digits).length
  if -4 < point && point ≤ 16 then s.positional else s.exponential

/-- The texts of the values that are no finite numbers. -/
structure Specials where
  notANumber : String
  infinity : String

def floatText (specials : Specials) (x : Float) : String :=
  let sign := if x.toBits.toNat / 0x8000000000000000 = 1 then "-" else ""
  if x.isNaN then specials.notANumber
  else if x.isInf then sign ++ specials.infinity
  else if x == 0 then sign ++ "0.0"
  else sign ++ .ofList (Binary.ofBits x.toBits).shortest.chars

/-- The float nearest to `digits * 10 ^ exponent`, with the given sign.  Past the range of floats it
is infinite or zero. -/
def toFloat (negative : Bool) (digits : Nat) (exponent : Int) : Float :=
  let magnitude : Float :=
    if digits = 0 then 0
    else
      let size := exponent + (Nat.toDigits 10 digits).length
      if 400 < size then 1 / 0
      else if size < -400 then 0
      else if exponent < 0 then Float.ofScientific digits true exponent.natAbs
      else Float.ofScientific digits false exponent.natAbs
  if negative then -magnitude else magnitude

/-- The integer that a float is equal to, if there is one. -/
def toInt? (x : Float) : Option Int :=
  if x == 0 then some 0
  else if x.isNaN || x.isInf then none
  else
    let b := Binary.ofBits x.toBits
    let scaled := b.significand * Nat.pow 2 b.exponent.toNat
    let unit := Nat.pow 2 (-b.exponent).toNat
    if scaled % unit = 0 then some (withSign (x < 0) (scaled / unit)) else none

/-- The float of a number written as whole digits, fraction digits and an exponent. -/
def ofParts (negative : Bool) (whole fraction : List Char) (exponent : Int) : Float :=
  toFloat negative (ofDigits (whole ++ fraction)) (exponent - fraction.length)

/-- The parts of an unsigned number: whole digits, then perhaps a point with fraction digits, then
perhaps `e` with a signed exponent; underscores may group the digits.  Digits must stand before or
after the point. -/
def number? (s : List Char) : Option (List Char × List Char × Int) := do
  let isPart := fun c => isDigit c || c == '_'
  let whole ← grouped? (s.takeWhile isPart)
  let s := s.dropWhile isPart
  let (fraction, s) ←
    match s with
    | '.' :: s => (grouped? (s.takeWhile isPart)).map fun f => (f, s.dropWhile isPart)
    | s => some ([], s)
  if whole.isEmpty && fraction.isEmpty then none
  else
    match s with
    | [] => some (whole, fraction, 0)
    | e :: s =>
      if e == 'e' || e == 'E' then
        let (negative, s) := signed s
        let ds ← grouped? s
        if ds.isEmpty then none else some (whole, fraction, withSign negative (ofDigits ds))
      else none

/-- The word for a float that is no finite number, in lower case. -/
def special? (word : List Char) : Option Float :=
  if word == ['i', 'n', 'f'] || word == ['i', 'n', 'f', 'i', 'n', 'i', 't', 'y'] then some (1 / 0)
  else if word == ['n', 'a', 'n'] then some (0 / 0)
  else none

/-- The float that a text spells: a sign perhaps, and a number or a word. -/
def floatOf? (s : List Char) : Option Float :=
  let (negative, r) := signed s
  match number? r with
  | some (whole, fraction, e) => some (ofParts negative whole fraction e)
  | none => (special? (r.map Char.toLower)).map fun x => if negative then -x else x

end Daihon.Decimal

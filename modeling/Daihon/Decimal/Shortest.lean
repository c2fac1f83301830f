/-!
# Shortest decimals

The shortest decimal that reads back as a given float: of all decimals in the interval of reals that
round to the float it is one with the fewest digits, and of those the nearest to the float.  The
interval is closed exactly when the significand is even.  All arithmetic is exact.
-/

namespace Daihon.Decimal

/-- A positive finite float as a significand and a power of two: `significand * 2 ^ exponent`.
`lowest` marks the least significand of its binade, below which floats lie twice as dense. -/
structure Binary where
  significand : Nat
  exponent : Int
  lowest : Bool
  deriving Repr, DecidableEq

/-- The significand and exponent in the bits of a float, the sign left out. -/
def Binary.ofBits (bits : UInt64) : Binary :=
  let n : Nat := bits.toNat
  let fraction : Nat := n % Nat.pow 2 52
  let biased : Nat := n / Nat.pow 2 52 % Nat.pow 2 11
  if biased = 0 then ⟨fraction, -1074, false⟩
  else ⟨Nat.pow 2 52 + fraction, (biased : Int) - 1075, fraction == 0 && biased != 1⟩

/-- A positive decimal: `digits * 10 ^ exponent`. -/
structure Scientific where
  digits : Nat
  exponent : Int
  deriving Repr, DecidableEq

/-- A float with the ends of its rounding interval, all over one denominator. -/
structure Interval where
  low : Nat
  value : Nat
  high : Nat
  unit : Nat
  closed : Bool

/-- The rounding interval of `b`, measured in quarters of its last place. -/
def Binary.interval (b : Binary) : Interval :=
  let up := Nat.pow 2 b.exponent.toNat
  let unit := 4 * Nat.pow 2 (-b.exponent).toNat
  { low := (4 * b.significand - (if b.lowest then 1 else 2)) * up
    value := 4 * b.significand * up
    high := (4 * b.significand + 2) * up
    unit := unit
    closed := b.significand % 2 == 0 }

/-- Whether the decimal `d * 10 ^ k` lies in the interval. -/
def Interval.has (i : Interval) (d : Nat) (k : Int) : Bool :=
  let x := d * Nat.pow 10 k.toNat * i.unit
  let scale := Nat.pow 10 (-k).toNat
  if i.closed then i.low * scale ≤ x && x ≤ i.high * scale
  else i.low * scale < x && x < i.high * scale

/-- The point of the grid of multiples of `10 ^ k` that lies in the interval nearest to the float, if
one does: one of the float's two neighbours.  Of two that are equally near the even one counts. -/
def Interval.onGrid? (i : Interval) (k : Int) : Option Nat :=
  let step := Nat.pow 10 k.toNat * i.unit
  let x := i.value * Nat.pow 10 (-k).toNat
  let below := x / step
  let rest := x % step
  let first :=
    if 2 * rest < step || (2 * rest == step && below % 2 == 0) then below else below + 1
  let second := if first = below then below + 1 else below
  if i.has first k then some first
  else if i.has second k then some second
  else none

/-- Counts up from `e` while `x` is at least ten times `y`. -/
def raise : Nat → Nat → Nat → Int → Int
  | 0, _, _, e => e
  | n + 1, x, y, e => if 10 * y ≤ x then raise n x (10 * y) (e + 1) else e

/-- Counts down from `e` while `x` is below `y`. -/
def lower : Nat → Nat → Nat → Int → Int
  | 0, _, _, e => e
  | n + 1, x, y, e => if x < y then lower n (10 * x) y (e - 1) else e

/-- The exponent of the leading decimal digit of `x / y`. -/
def leadingExponent (x y : Nat) : Int :=
  if x < y then lower 400 x y 0 else raise 400 x y 0

/-- Tries the grids with steps `10 ^ k`, `10 ^ (k - 1)`, … and takes the first hit. -/
def Interval.search (i : Interval) : Nat → Int → Scientific
  | 0, k => ⟨i.value * Nat.pow 10 (-k).toNat / (Nat.pow 10 k.toNat * i.unit), k⟩
  | n + 1, k =>
    match i.onGrid? k with
    | some d => ⟨d, k⟩
    | none => i.search n (k - 1)

/-- Moves final zeros of the digits into the exponent. -/
def Scientific.reduce : Nat → Scientific → Scientific
  | 0, s => s
  | n + 1, s =>
    if s.digits != 0 && s.digits % 10 == 0 then
      Scientific.reduce n ⟨s.digits / 10, s.exponent + 1⟩
    else s

/-- The shortest decimal that rounds to `b`; 17 digits are always enough. -/
def Binary.shortest (b : Binary) : Scientific :=
  let i := b.interval
  Scientific.reduce 20 (i.search 17 (leadingExponent i.value i.unit))

end Daihon.Decimal

/-!
# Digits

ASCII digits and the numbers they spell.
-/

namespace Daihon.Decimal

/-- Whether `c` is one of `0`–`9`. -/
def isDigit (c : Char) : Bool :=
  '0' ≤ c && c ≤ '9'

def digitValue (c : Char) : Nat :=
  c.toNat - '0'.toNat

/-- The number that a row of digits spells. -/
def ofDigits (ds : List Char) : Nat :=
  ds.foldl (fun n d => 10 * n + digitValue d) 0

def hexValue? (c : Char) : Option Nat :=
  if isDigit c then some (digitValue c)
  else if 'a' ≤ c && c ≤ 'f' then some (c.toNat - 'a'.toNat + 10)
  else if 'A' ≤ c && c ≤ 'F' then some (c.toNat - 'A'.toNat + 10)
  else none

/-- The number that a row of digits spells in the given base; `none` for an empty row or a
character that is no digit of the base. -/
def ofBase? (base : Nat) (ds : List Char) : Option Nat :=
  if ds.isEmpty then none
  else
    ds.foldl
      (fun n d => do
        let n ← n
        let v ← hexValue? d
        if v < base then some (base * n + v) else none)
      (some 0)

/-- Digits with single underscores between them, the underscores removed. -/
def grouped? (ds : List Char) : Option (List Char) :=
  match ds with
  | [] => some []
  | [d] => if isDigit d then some [d] else none
  | d :: '_' :: e :: ds =>
    if isDigit d && isDigit e then (grouped? (e :: ds)).map (d :: ·) else none
  | d :: ds => if isDigit d then (grouped? ds).map (d :: ·) else none

/-- The sign in front of a number: whether it is negative, and what follows the sign. -/
def signed (s : List Char) : Bool × List Char :=
  match s with
  | '-' :: s => (true, s)
  | '+' :: s => (false, s)
  | s => (false, s)

def withSign (negative : Bool) (n : Nat) : Int :=
  if negative then -n else n

/-- A row of `n` lower-case hexadecimal digits for `value`. -/
def hexDigits : Nat → Nat → List Char
  | 0, _ => []
  | n + 1, value => hexDigits n (value / 16) ++ [Nat.digitChar (value % 16)]

end Daihon.Decimal

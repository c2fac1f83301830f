import Daihon.Decimal.Notation
import Daihon.Value.Literal

/-!
# Printing JSON

A value is printed over several lines with an indent of two spaces; empty lists and tables stay on
one line.  Characters outside ASCII are printed as they are; quotes, backslashes and control
characters are escaped.  An integer is printed with all its digits.  A pair is printed as a list, and what
JSON has no form for as the text of its literal.

Where integers are printed with so many digits at most, a value with a longer one has no JSON text
(`fits`).
-/

namespace Daihon.Json

/-- The spelling of floats that are no finite numbers. -/
def specials : Decimal.Specials := ⟨"NaN", "Infinity"⟩

def escape (c : Char) : List Char :=
  if c = '"' then ['\\', '"']
  else if c = '\\' then ['\\', '\\']
  else if c = '\n' then ['\\', 'n']
  else if c = '\r' then ['\\', 'r']
  else if c = '\t' then ['\\', 't']
  else if c = '\x0c' then ['\\', 'f']
  else if c = '\x08' then ['\\', 'b']
  else if c.toNat < 32 then '\\' :: 'u' :: Decimal.hexDigits 4 c.toNat
  else [c]

def quote (s : List Char) : List Char :=
  '"' :: s.flatMap escape ++ ['"']

/-- A line feed and the indent of the given depth. -/
def newline (depth : Nat) : List Char :=
  '\n' :: List.replicate (2 * depth) ' '

def keyText : Value → List Char
  | .null => ['n', 'u', 'l', 'l']
  | .bool true => ['t', 'r', 'u', 'e']
  | .bool false => ['f', 'a', 'l', 's', 'e']
  | .float x => (Decimal.floatText specials x).toList
  | v => v.shown.toList

mutual
/-- Prints a value that stands at the given depth. -/
def printAt (depth : Nat) : Value → List Char
  | .null => ['n', 'u', 'l', 'l']
  | .bool true => ['t', 'r', 'u', 'e']
  | .bool false => ['f', 'a', 'l', 's', 'e']
  | .int n => (toString n).toList
  | .float x => (Decimal.floatText specials x).toList
  | .text s | .brokenText s => quote s.toList
  | .bytes bs => quote (Value.literal (.bytes bs))
  | .moment m => quote m.literal.toList
  | .set items => quote (Value.literal (.set items))
  | .pair a b =>
    '[' :: newline (depth + 1) ++ printAt (depth + 1) a ++ ',' :: newline (depth + 1) ++
      printAt (depth + 1) b ++ newline depth ++ [']']
  | .list [] => ['[', ']']
  | .list (v :: vs) =>
    '[' :: newline (depth + 1) ++ printAt (depth + 1) v ++ printItems (depth + 1) vs ++
      newline depth ++ [']']
  | .table [] => ['{', '}']
  | .table ((k, v) :: es) =>
    '{' :: newline (depth + 1) ++ quote k.toList ++ ':' :: ' ' :: printAt (depth + 1) v ++
      printEntries (depth + 1) es ++ newline depth ++ ['}']
  | .mapping [] => ['{', '}']
  | .mapping ((k, v) :: es) =>
    '{' :: newline (depth + 1) ++ quote (keyText k) ++ ':' :: ' ' :: printAt (depth + 1) v ++
      printPairs (depth + 1) es ++ newline depth ++ ['}']
/-- Prints the items after the first, each after a comma. -/
def printItems (depth : Nat) : List Value → List Char
  | [] => []
  | v :: vs => ',' :: newline depth ++ printAt depth v ++ printItems depth vs
/-- Prints the entries after the first, each after a comma. -/
def printEntries (depth : Nat) : List (String × Value) → List Char
  | [] => []
  | (k, v) :: es =>
    ',' :: newline depth ++ quote k.toList ++ ':' :: ' ' :: printAt depth v ++
      printEntries depth es
/-- Prints the entries with any keys after the first, each after a comma. -/
def printPairs (depth : Nat) : List (Value × Value) → List Char
  | [] => []
  | (k, v) :: es =>
    ',' :: newline depth ++ quote (keyText k) ++ ':' :: ' ' :: printAt depth v ++
      printPairs depth es
end

mutual
/-- The integers that are printed in a value. -/
def integers : Value → List Int
  | .int n => [n]
  | .pair a b => integers a ++ integers b
  | .list vs | .set vs => integersOfItems vs
  | .table es => integersOfEntries es
  | .mapping es => integersOfPairs es
  | _ => []
def integersOfItems : List Value → List Int
  | [] => []
  | v :: vs => integers v ++ integersOfItems vs
def integersOfEntries : List (String × Value) → List Int
  | [] => []
  | (_, v) :: es => integers v ++ integersOfEntries es
def integersOfPairs : List (Value × Value) → List Int
  | [] => []
  | (k, v) :: es => integers k ++ integers v ++ integersOfPairs es
end

/-- Whether an integer has `limit` digits at most. -/
def isShort (limit : Nat) (n : Int) : Bool :=
  (toString n.natAbs).length ≤ limit

/-- Whether all integers in a value have `limit` digits at most. -/
def fits (limit : Nat) (v : Value) : Bool :=
  (integers v).all (isShort limit)

def print (v : Value) : String :=
  .ofList (printAt 0 v)

/-- The JSON text of a value on one line. -/
def printLine (v : Value) : String :=
  .ofList ((printAt 0 v).filter fun c => c != '\n')

end Daihon.Json

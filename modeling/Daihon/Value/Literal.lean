import Daihon.Decimal.Notation
import Daihon.Text.Printable
import Daihon.Value.Basic

/-!
# Literal notation

How a value is spelled out in messages and log lines.  A text stands in single quotes, or in double
quotes if it holds a single quote and no double one; characters that cannot be shown are escaped.
Lists stand in brackets, pairs in parentheses, sets and tables in braces.
-/

namespace Daihon

namespace Text

def singleQuote : Char := Char.ofNat 39

def doubleQuote : Char := Char.ofNat 34

/-- The escape of a character that is not printable: by two, four or eight hexadecimal digits. -/
def escapeUnprintable (c : Char) : List Char :=
  if c.toNat < 0x100 then '\\' :: 'x' :: Decimal.hexDigits 2 c.toNat
  else if c.toNat < 0x10000 then '\\' :: 'u' :: Decimal.hexDigits 4 c.toNat
  else '\\' :: 'U' :: Decimal.hexDigits 8 c.toNat

def escapeLiteral (quote c : Char) : List Char :=
  if c = quote || c = '\\' then ['\\', c]
  else if c = '\n' then ['\\', 'n']
  else if c = '\r' then ['\\', 'r']
  else if c = '\t' then ['\\', 't']
  else if isPrintable c then [c]
  else escapeUnprintable c

def quoteFor (s : List Char) : Char :=
  if s.contains singleQuote && !s.contains doubleQuote then doubleQuote else singleQuote

def quoted (s : List Char) : List Char :=
  let quote := quoteFor s
  quote :: s.flatMap (escapeLiteral quote) ++ [quote]

/-- Bytes in quotes: those of ASCII as characters, the others escaped. -/
def quotedBytes (bs : List UInt8) : List Char :=
  let s := bs.map fun b => Char.ofNat b.toNat
  let quote := quoteFor s
  let escape := fun (c : Char) =>
    if c.toNat < 0x7F then escapeLiteral quote c else escapeUnprintable c
  'b' :: quote :: s.flatMap escape ++ [quote]

end Text

namespace Value

/-- The spelling of floats in literals. -/
def literalFloats : Decimal.Specials := ⟨"nan", "inf"⟩

mutual
def literal : Value → List Char
  | .null => ['N', 'o', 'n', 'e']
  | .bool true => ['T', 'r', 'u', 'e']
  | .bool false => ['F', 'a', 'l', 's', 'e']
  | .int n => (toString n).toList
  | .float x => (Decimal.floatText literalFloats x).toList
  | .text s | .brokenText s => Text.quoted s.toList
  | .bytes bs => Text.quotedBytes bs
  | .moment m => m.literal.toList
  | .pair a b => '(' :: literal a ++ ',' :: ' ' :: literal b ++ [')']
  | .list items => '[' :: literalItems items ++ [']']
  | .set [] => ['s', 'e', 't', '(', ')']
  | .set (v :: vs) => '{' :: literalItems (v :: vs) ++ ['}']
  | .table entries => '{' :: literalEntries entries ++ ['}']
  | .mapping entries => '{' :: literalPairs entries ++ ['}']
/-- The literals of a list, with commas between them. -/
def literalItems : List Value → List Char
  | [] => []
  | [v] => literal v
  | v :: vs => literal v ++ ',' :: ' ' :: literalItems vs
/-- The literals of the entries of a table, with commas between them. -/
def literalEntries : List (String × Value) → List Char
  | [] => []
  | [(k, v)] => Text.quoted k.toList ++ ':' :: ' ' :: literal v
  | (k, v) :: es => Text.quoted k.toList ++ ':' :: ' ' :: (literal v ++ ',' :: ' ' :: literalEntries es)
/-- The literals of entries with any keys, with commas between them. -/
def literalPairs : List (Value × Value) → List Char
  | [] => []
  | [(k, v)] => literal k ++ ':' :: ' ' :: literal v
  | (k, v) :: es => literal k ++ ':' :: ' ' :: (literal v ++ ',' :: ' ' :: literalPairs es)
end

/-- A value shown in running text: a text as it is, everything else as a literal. -/
def shown : Value → String
  | .text s | .brokenText s => s
  | v => .ofList v.literal

end Value

end Daihon

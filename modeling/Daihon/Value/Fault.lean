import Daihon.Value.Literal

/-!
# Texts that spell no data

A text may not follow the rules of its format at all.  Or it may hold something that has the form of a
number, a moment or a character and still stands for none; each such fault has the name under which it is
reported and a text.
-/

namespace Daihon

/-- Why the text of a scalar gives no value. -/
inductive ScalarFault where
  /-- The numbers of a date or a time are out of range. -/
  | moment (e : MomentError)
  /-- The text is no moment at all. -/
  | noMoment
  /-- The text is no integer to the given base. -/
  | integer (base : Nat) (text : String)
  /-- The text is an integer of more decimal digits than are read. -/
  | longInteger (digits : Nat)
  /-- The text is no float. -/
  | float (text : String)
  /-- The text is no word for a truth value. -/
  | switch (word : String)
  /-- The text of a number is empty. -/
  | empty
  /-- A code is past the last character. -/
  | character
  /-- A code is past 31 bits. -/
  | hugeCharacter
  deriving DecidableEq, Repr

/-- The greatest number of decimal digits that an integer may be written with. -/
def digitLimit : Nat := 4300

namespace ScalarFault

def name : ScalarFault → String
  | noMoment => "AttributeError"
  | switch _ => "KeyError"
  | empty => "IndexError"
  | hugeCharacter => "OverflowError"
  | moment _ | integer .. | longInteger _ | float _ | character => "ValueError"

def inQuotes (s : String) : String :=
  .ofList (Text.quoted s.toList)

def text : ScalarFault → String
  | moment e => e.text
  | noMoment => "'NoneType' object has no attribute 'groupdict'"
  | integer base s => "invalid literal for int() with base " ++ toString base ++ ": " ++ inQuotes s
  | longInteger digits =>
    "Exceeds the limit (" ++ toString digitLimit ++
      " digits) for integer string conversion: value has " ++ toString digits ++
      " digits; use sys.set_int_max_str_digits() to increase the limit"
  | float s => "could not convert string to float: " ++ inQuotes s
  | switch word => inQuotes word
  | empty => "string index out of range"
  | character => "chr() arg not in range(0x110000)"
  | hugeCharacter => "Python int too large to convert to C int"

end ScalarFault

inductive DataFault where
  /-- The text does not follow the rules of its format. -/
  | malformed
  /-- A scalar spells no value of its type. -/
  | scalar (f : ScalarFault)
  deriving DecidableEq, Repr

/-- The text does not follow the rules of its format. -/
def malformed {α : Type} : Except DataFault α :=
  .error .malformed

/-- The integer that decimal digits spell, unless there are too many of them. -/
def integerOfDigits (negative : Bool) (digits : List Char) : Except ScalarFault Int :=
  if digitLimit < digits.length then .error (.longInteger digits.length)
  else .ok (Decimal.withSign negative (Decimal.ofDigits digits))

end Daihon

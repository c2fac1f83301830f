/-!
# Problems with settings

What can be wrong with the value given for a field.
-/

namespace Daihon

inductive Refusal where
  | boolType
  | boolText
  | intType
  | intText
  | intFraction
  | intRange
  | intFinite
  | floatType
  | floatText
  | textType
  /-- Bytes that spell no text, or a broken text. -/
  | textBytes
  | tableType
  | pattern
  | notPositive
  | belowMinimum
  | aboveMaximum
  /-- A refusal with a message of its own. -/
  | custom (message : String)
  deriving DecidableEq, Repr

def Refusal.code : Refusal → String
  | .boolType => "bool_type"
  | .boolText => "bool_parsing"
  | .intType => "int_type"
  | .intText => "int_parsing"
  | .intFraction => "int_from_float"
  | .intRange => "int_parsing_size"
  | .intFinite => "finite_number"
  | .floatType => "float_type"
  | .floatText => "float_parsing"
  | .textType => "string_type"
  | .textBytes => "string_unicode"
  | .tableType => "dict_type"
  | .pattern => "string_pattern_mismatch"
  | .notPositive => "greater_than"
  | .belowMinimum => "greater_than_equal"
  | .aboveMaximum => "less_than_equal"
  | .custom _ => "value_error"

/-- The message reported with a refusal, if it has one of its own. -/
def Refusal.message? : Refusal → Option String
  | .custom message => some ("Value error, " ++ message)
  | _ => none

/-- A refused value: the field, and the key inside it if the value stands in a table. -/
structure Problem where
  place : List String
  refusal : Refusal
  deriving DecidableEq, Repr

/-- The order in which problems are reported: by place, then by code. -/
def Problem.le (p q : Problem) : Bool :=
  p.place < q.place || (p.place == q.place && !(q.refusal.code < p.refusal.code))

/-- The problems in the order in which they are reported. -/
def Problem.sorted (ps : List Problem) : List Problem :=
  ps.mergeSort Problem.le

end Daihon

import Daihon.Value.Moment

/-!
# Data values

The values that configuration data, log fields and error details are made of.  A table keeps its
keys in the order in which they were first written; writing a key again replaces its value in place.
-/

namespace Daihon

/-- A piece of structured data. -/
inductive Value where
  | null
  | bool (b : Bool)
  | int (n : Int)
  | float (x : Float)
  | text (s : String)
  /-- A text with surrogates that belong to no character; the replacement character stands for them. -/
  | brokenText (s : String)
  | bytes (bs : List UInt8)
  | moment (m : Moment)
  | pair (first second : Value)
  | list (items : List Value)
  | set (items : List Value)
  /-- Entries whose keys are all texts. -/
  | table (entries : List (String × Value))
  /-- Entries of which some have a key that is no text. -/
  | mapping (entries : List (Value × Value))
  deriving Inhabited

/-- Entries with distinct keys, in the order in which the keys were first written. -/
abbrev Table (α : Type) := List (String × α)

namespace Table

variable {α : Type}

def get? (t : Table α) (key : String) : Option α :=
  (t.find? fun entry => entry.1 == key).map Prod.snd

/-- Sets the value under `key`: in place if the key is there, at the end otherwise. -/
def put : Table α → String → α → Table α
  | [], key, a => [(key, a)]
  | (k, b) :: t, key, a => if k == key then (k, a) :: t else (k, b) :: put t key a

/-- The table of a row of entries, in which a later entry for a key replaces an earlier one. -/
def ofEntries (entries : List (String × α)) : Table α :=
  entries.foldl (fun t (k, a) => t.put k a) []

/-- Sets all entries of `new`, in order. -/
def putAll (t new : Table α) : Table α :=
  new.foldl (fun t (k, a) => t.put k a) t

def keys (t : Table α) : List String :=
  t.map Prod.fst

def erase (t : Table α) (key : String) : Table α :=
  t.filter fun entry => !(entry.1 == key)

theorem get?_put_self (t : Table α) (key : String) (a : α) : (t.put key a).get? key = some a := by
  induction t with
  | nil => simp [put, get?]
  | cons e t ih =>
    obtain ⟨k, b⟩ := e
    by_cases h : k == key
    · simp [put, get?, h]
    · simp only [put, h, get?, List.find?, Bool.false_eq_true, if_false]
      simpa [get?] using ih

theorem get?_put_of_ne (t : Table α) {key other : String} (a : α) (h : other ≠ key) :
    (t.put key a).get? other = t.get? other := by
  induction t with
  | nil => simp [put, get?, Ne.symm h]
  | cons e t ih =>
    obtain ⟨k, b⟩ := e
    by_cases hk : k = key
    · subst hk
      simp [put, get?, Ne.symm h]
    · simp only [put, beq_iff_eq, hk, if_false, get?, List.find?]
      cases k == other
      · simpa [get?] using ih
      · rfl

end Table

/-- The text of a row of characters, in which a surrogate that belongs to none is missing. -/
def Value.ofCharacters (cs : List (Option Char)) : Value :=
  match cs.mapM id with
  | some cs => .text (.ofList cs)
  | none => .brokenText (.ofList (cs.map fun c => c.getD '\uFFFD'))

/-- The name of the type of a value, as it stands in messages. -/
def Value.typeName : Value → String
  | .null => "NoneType"
  | .bool _ => "bool"
  | .int _ => "int"
  | .float _ => "float"
  | .text _ | .brokenText _ => "str"
  | .bytes _ => "bytes"
  | .moment m => m.typeName
  | .pair .. => "tuple"
  | .list _ => "list"
  | .set _ => "set"
  | .table _ | .mapping _ => "dict"

/-- Whether a value counts as nothing: null, false, a zero, or anything without parts. -/
def Value.isEmpty : Value → Bool
  | .null => true
  | .bool b => !b
  | .int n => n == 0
  | .float x => x == 0
  | .text s | .brokenText s => s.isEmpty
  | .bytes bs => bs.isEmpty
  | .moment _ | .pair .. => false
  | .list items | .set items => items.isEmpty
  | .table entries => entries.isEmpty
  | .mapping entries => entries.isEmpty

end Daihon

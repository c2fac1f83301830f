import Daihon.Decimal.Notation
import Daihon.Value.Basic

/-!
# Keys

Any plain value may be the key of an entry.  Two numbers are the same key if they are equal, whatever
their types, and a truth value counts as 0 or 1.  Of entries with the same key the first gives the key
and the place, and the last gives the value.

* `Value.ofPairs` puts entries together to a table or a mapping;
* `Value.pairs?` takes a table or a mapping apart.
-/

namespace Daihon

namespace Value

/-- The number that a value is, if it is a whole one. -/
def wholeNumber? : Value → Option Int
  | .bool b => some (if b then 1 else 0)
  | .int n => some n
  | .float x => Decimal.toInt? x
  | _ => none

/-- Whether two values are the same key. -/
def isSameKey (a b : Value) : Bool :=
  match a, b with
  | .null, .null => true
  | .text s, .text t | .brokenText s, .brokenText t => s == t
  | .bytes s, .bytes t => s == t
  | .moment m, .moment n => m.agrees n
  | .float x, .float y => x == y || (x.isNaN && y.isNaN)
  | a, b =>
    match a.wholeNumber?, b.wholeNumber? with
    | some m, some n => m == n
    | _, _ => false

/-- Whether a value can be a key: whatever has no parts that could change. -/
def canBeKey : Value → Bool
  | .list _ | .set _ | .table _ | .mapping _ => false
  | _ => true

/-- Sets the value under a key: in place if the key is there, at the end otherwise. -/
def putPair : List (Value × Value) → Value → Value → List (Value × Value)
  | [], key, v => [(key, v)]
  | (k, w) :: es, key, v =>
    if k.isSameKey key then (k, v) :: es else (k, w) :: putPair es key v

def putPairs (old new : List (Value × Value)) : List (Value × Value) :=
  new.foldl (fun es (k, v) => putPair es k v) old

/-- An entry whose key is a text, be it a broken one. -/
def textEntry? (e : Value × Value) : Option (String × Value) :=
  match e.1 with
  | .text k | .brokenText k => some (k, e.2)
  | _ => none

/-- The table or mapping of a row of entries. -/
def ofPairs (es : List (Value × Value)) : Value :=
  let es := putPairs [] es
  match es.mapM textEntry? with
  | some t => .table t
  | none => .mapping es

/-- The entries of a table or a mapping. -/
def pairs? : Value → Option (List (Value × Value))
  | .table t => some (t.map fun (k, v) => (.text k, v))
  | .mapping es => some es
  | _ => none

def ofItems (items : List Value) : Value :=
  .set ((putPairs [] (items.map fun v => (v, .null))).map Prod.fst)

end Value

end Daihon

import Daihon.Config.Yaml.Grammar
import Daihon.Config.Yaml.Lexer
import Daihon.Value.Key

/-!
# The data of a YAML text

A mapping first takes in the entries of the mappings under its merge keys, which its own entries replace.
Then nodes become values level by level, so that of several faults the one that lies least deep is
reported, and of those the first.

All modules on YAML follow the specification of YAML 1.1 as far as the library under the program documents that
it goes: one document to a text, the tags of the common types and no others (`Tag.ofName`), types of plain
scalars by their form (`Tag.ofPlain`), merge keys (`merged?`), and of several entries under one key the last
(`Value.ofPairs`).

* `parse` is the data of a text.
-/

namespace Daihon.Yaml

/-! ## Merging -/

/-- The entries of a node that is merged into a mapping. -/
def mergedEntries? : Node → Option (List (Node × Node))
  | .mapping _ es => some es
  | _ => none

/-- The entries that a merge key brings: those of a mapping, or of a list of mappings, the last one
first. -/
def mergeSource? : Node → Option (List (Node × Node))
  | .mapping _ es => some es
  | .list _ items => (items.mapM mergedEntries?).map fun ess => ess.reverse.flatten
  | _ => none

/-- A key that stands for itself. -/
def asKey : Node → Node
  | .scalar .default text => .scalar .text text
  | k => k

/-- The entries of a mapping, behind those that its merge keys bring. -/
def merged? (es : List (Node × Node)) : Option (List (Node × Node)) :=
  let sources := (es.filter fun e => e.1.tag = .merge).map Prod.snd
  let own := (es.filter fun e => e.1.tag ≠ .merge).map fun e => (asKey e.1, e.2)
  (sources.mapM mergeSource?).map fun ess => ess.flatten ++ own

/-- A mapping with the entries that its merge keys bring. -/
def mergedMapping (t : Tag) (es : List (Node × Node)) : Node :=
  if t = .mapping || t = .set then
    match merged? es with
    | some es => .mapping t es
    | none => .unmergeable
  else .mapping t es

mutual
/-- A node in which all mappings have taken in what they merge; the mappings that stand for pairs do
not. -/
def Node.merge : Node → Node
  | .list .pairs items => .list .pairs (mergeWithin items)
  | .list t items => .list t (mergeItems items)
  | .mapping t es => mergedMapping t (mergeEntries es)
  | n => n
def mergeItems : List Node → List Node
  | [] => []
  | n :: ns => n.merge :: mergeItems ns
/-- Merges what is inside the items of a list. -/
def mergeWithin : List Node → List Node
  | [] => []
  | .mapping t es :: ns => .mapping t (mergeEntries es) :: mergeWithin ns
  | n :: ns => n.merge :: mergeWithin ns
def mergeEntries : List (Node × Node) → List (Node × Node)
  | [] => []
  | (k, v) :: es => (k.merge, v.merge) :: mergeEntries es
end

/-! ## Faults by depth -/

/-- A fault, and how deep inside a node it lies. -/
structure Flaw where
  depth : Nat
  fault : DataFault

/-- A result that may be spoilt by a flaw. -/
abbrev Built (α : Type) := Except Flaw α

/-- A result that is part of another one. -/
def deeper {α : Type} (r : Built α) : Built α :=
  match r with
  | .ok a => .ok a
  | .error f => .error { f with depth := f.depth + 1 }

/-- Two results; of two flaws the less deep one counts, and of equally deep ones the first. -/
def both {α β γ : Type} (f : α → β → γ) (a : Built α) (b : Built β) : Built γ :=
  match a, b with
  | .ok x, .ok y => .ok (f x y)
  | .ok _, .error g => .error g
  | .error f, .ok _ => .error f
  | .error f, .error g => .error (if g.depth < f.depth then g else f)

/-- A flaw that shows when a node is looked into. -/
def flawInside {α : Type} : Built α :=
  .error ⟨1, .malformed⟩

/-! ## Values -/

def Tag.hasParts : Tag → Bool
  | .list | .pairs | .mapping | .set => true
  | _ => false

mutual
/-- The text of a node where a scalar is asked for: a mapping may have one under its default key. -/
def Node.text? : Node → Option (List Char)
  | .scalar _ s => some s
  | .mapping _ es => defaultText? es
  | _ => none
/-- The text under the default key. -/
def defaultText? : List (Node × Node) → Option (List Char)
  | [] => none
  | (k, v) :: es => if k.tag = .default then v.text? else defaultText? es
end

/-- The value of a scalar, or of a node that stands for one. -/
def scalarData (t : Tag) (text : Option (List Char)) : Built Value :=
  if t.hasParts then flawInside
  else
    match text with
    | none => .error ⟨0, .malformed⟩
    | some s =>
      match scalarValue t s with
      | .ok v => .ok v
      | .error f => .error ⟨0, f⟩

/-- A value as a key; what has parts can be none. -/
def keyData (n : Node) (data : Built Value) : Built Value :=
  if n.tag.hasParts then .error ⟨0, .malformed⟩ else data

mutual
def Node.data : Node → Built Value
  | .scalar t s => scalarData t (some s)
  | .list .list items => (itemsData items).map .list
  | .list .pairs items => (pairsData items).map .list
  | .list t _ => scalarData t none
  | .mapping .mapping es => (entriesData es).map Value.ofPairs
  | .mapping .set es => (entriesData es).map fun es => Value.ofItems (es.map Prod.fst)
  | .mapping t es => scalarData t (defaultText? es)
  | .cycle => .ok (.list [])
  | .unmergeable => flawInside
def itemsData : List Node → Built (List Value)
  | [] => .ok []
  | n :: ns => both (· :: ·) (deeper n.data) (itemsData ns)
/-- The pairs that the items of a list stand for, each a mapping with one entry. -/
def pairsData : List Node → Built (List Value)
  | [] => .ok []
  | .mapping _ [(k, v)] :: ns =>
    both (· :: ·) (both Value.pair (deeper k.data) (deeper v.data)) (pairsData ns)
  | _ :: _ => flawInside
def entriesData : List (Node × Node) → Built (List (Value × Value))
  | [] => .ok []
  | (k, v) :: es =>
    both (· :: ·) (both Prod.mk (deeper (keyData k k.data)) (deeper v.data)) (entriesData es)
end

/-- The data of a text; nothing at all is null. -/
def parse (text : List Char) : Except DataFault Value :=
  let s := Text.unifyNewlines text
  if !s.all isAllowed then malformed
  else
    match document (tokens s) with
    | .error f => .error f
    | .ok none => .ok .null
    | .ok (some n) =>
      match n.merge.data with
      | .ok v => .ok v
      | .error f => .error f.fault

end Daihon.Yaml

import Daihon.Config.Yaml.Token
import Daihon.Value.Basic

/-!
# Nodes of YAML

A document is a node: a scalar, a list or a mapping, each with a tag that names its type.  A plain scalar
without a tag is typed by its form.  The tags are those of the type repository of YAML 1.1 that a safe reader
builds values for.
-/

namespace Daihon.Yaml

inductive Tag where
  | null
  | bool
  | int
  | float
  | text
  | brokenText
  | bytes
  | moment
  | list
  | pairs
  | mapping
  | set
  /-- The key under which entries of other mappings are taken in. -/
  | merge
  /-- The key of what a mapping stands for where a scalar is asked for. -/
  | default
  | unknown
  deriving DecidableEq, Repr

def tagNames : List (String × Tag) :=
  [("null", .null), ("bool", .bool), ("int", .int), ("float", .float), ("str", .text),
    ("binary", .bytes), ("timestamp", .moment), ("seq", .list), ("omap", .pairs), ("pairs", .pairs),
    ("map", .mapping), ("set", .set), ("merge", .merge), ("value", .default)]

/-- What the names of the common types start with. -/
def commonStart : String := "tag:yaml.org,2002:"

def Tag.ofName (name : String) : Tag :=
  match (tagNames.find? fun t => commonStart ++ t.1 == name) with
  | some (_, t) => t
  | none => .unknown

inductive Node where
  | scalar (tag : Tag) (text : List Char)
  | list (tag : Tag) (items : List Node)
  | mapping (tag : Tag) (entries : List (Node × Node))
  /-- The name of a node inside it. -/
  | cycle
  /-- A mapping that takes in entries of what is no mapping. -/
  | unmergeable
  deriving Inhabited

def Node.tag : Node → Tag
  | .scalar t _ | .list t _ | .mapping t _ => t
  | .cycle => .list
  | .unmergeable => .mapping

end Daihon.Yaml

import Daihon.Config.Yaml.Plain

/-!
# Putting nodes together

The tokens of a document make up a node.  A node may carry a tag and an anchor, and an alias stands for
the node with its anchor; a name may be given only once.  A missing node is an empty plain scalar.  The
productions are those of YAML 1.1.

* `document` is the node of a row of tokens, which must hold no second document.
-/

namespace Daihon.Yaml

/-- Where a node stands: inside brackets, in a block, or behind a key, where the items of a list need no
indent. -/
inductive Position where
  | flow
  | block
  | behindKey
  deriving DecidableEq, Repr

/-- The tokens that are left, and the nodes with names. -/
structure Progress where
  tokens : List Token
  named : List (String × Node) := []

/-- What the handles of tags stand for. -/
abbrev Handles := List (String × String)

/-- What is written in front of a node: its anchor and its tag. -/
structure Properties where
  anchor : Option String := none
  tag : Option (Option String × String) := none

namespace Progress

def peek (s : Progress) : Option Token :=
  s.tokens.head?

def next (s : Progress) : Progress :=
  { s with tokens := s.tokens.tail }

/-- The fault of a token that does not belong here. -/
def fail {α : Type} (s : Progress) : Except DataFault α :=
  match s.peek with
  | some (.fault f) => .error f
  | _ => malformed

/-- Whether one of the given tokens comes next. -/
def isAt (s : Progress) (ts : List Token) : Bool :=
  s.peek.any ts.contains

/-- Passes a token that must come next. -/
def expect (t : Token) (s : Progress) : Except DataFault Progress :=
  if s.isAt [t] then .ok s.next else s.fail

def properties (s : Progress) : Properties × Progress :=
  match s.tokens with
  | .anchor a :: .tag h t :: r => (⟨some a, some (h, t)⟩, { s with tokens := r })
  | .tag h t :: .anchor a :: r => (⟨some a, some (h, t)⟩, { s with tokens := r })
  | .anchor a :: r => (⟨some a, none⟩, { s with tokens := r })
  | .tag h t :: r => (⟨none, some (h, t)⟩, { s with tokens := r })
  | _ => ({}, s)

def name (s : Progress) (anchor : Option String) (n : Node) : Progress :=
  match anchor with
  | some a => { s with named := (a, n) :: s.named }
  | none => s

def find? (s : Progress) (name : String) : Option Node :=
  (s.named.find? fun e => e.1 == name).map Prod.snd

end Progress

/-- The tag of a node as it is meant. -/
inductive GivenTag where
  /-- No tag is written. -/
  | absent
  /-- An exclamation mark alone: the node is typed by its form. -/
  | byForm
  | full (t : Tag)
  deriving DecidableEq, Repr

/-- The tag that is written in front of a node; its handle must be known. -/
def Properties.givenTag (handles : Handles) (p : Properties) : Except DataFault GivenTag :=
  match p.tag with
  | none => .ok .absent
  | some (none, name) => .ok (if name == "!" then .byForm else .full (.ofName name))
  | some (some handle, name) =>
    match handles.find? fun h => h.1 == handle with
    | some (_, start) =>
      let name := start ++ name
      .ok (if name == "!" then .byForm else .full (.ofName name))
    | none => malformed

def GivenTag.scalar (t : GivenTag) (form : ScalarForm) (s : List Char) : Tag :=
  let tag : Tag :=
    match t with
    | .full t => t
    | .byForm => .ofPlain s
    | .absent => if form = .plain then .ofPlain s else .text
  if form = .broken && tag = .text then .brokenText else tag

def GivenTag.collection (t : GivenTag) (usual : Tag) : Tag :=
  match t with
  | .full t => t
  | _ => usual

def emptyNode : Node :=
  .scalar .null []

mutual
def node (handles : Handles) (fuel : Nat) (pos : Position) (s : Progress) :
    Except DataFault (Node × Progress) :=
  match fuel with
  | 0 => malformed
  | fuel + 1 =>
    match s.peek with
    | some (.alias name) =>
      match s.find? name with
      | some n => .ok (n, s.next)
      | none => malformed
    | _ => do
      let (p, s) := s.properties
      let tag ← p.givenTag handles
      if (p.anchor.bind s.find?).isSome then malformed
      else
        let listTag := tag.collection .list
        let mappingTag := tag.collection .mapping
        let inside := s.name p.anchor .cycle
        let (n, s) ←
          match s.peek with
          | some (.scalar form text) => .ok (Node.scalar (tag.scalar form text) text, s.next)
          | some .flowListStart => flowItems handles fuel listTag [] inside.next
          | some .flowMappingStart => flowEntries handles fuel mappingTag [] inside.next
          | some .dash =>
            if pos = .behindKey then items handles fuel false listTag [] inside else bare p tag s
          | some .blockList =>
            if pos = .flow then bare p tag s else items handles fuel true listTag [] inside.next
          | some .blockMapping =>
            if pos = .flow then bare p tag s else entries handles fuel mappingTag [] inside.next
          | _ => bare p tag s
        return (n, s.name p.anchor n)
/-- The empty scalar that a tag or an anchor stands in front of. -/
def bare (p : Properties) (tag : GivenTag) (s : Progress) : Except DataFault (Node × Progress) :=
  if p.anchor.isSome || tag ≠ .absent then .ok (.scalar (tag.scalar .plain []) [], s) else s.fail
/-- Reads the items of a block list behind those already read, in reverse.  A list with an indent of its
own ends with its block. -/
def items (handles : Handles) (fuel : Nat) (isIndented : Bool) (tag : Tag) (done : List Node)
    (s : Progress) : Except DataFault (Node × Progress) :=
  match fuel with
  | 0 => malformed
  | fuel + 1 =>
    if s.isAt [.dash] then do
      let s := s.next
      let (n, s) ←
        if s.isAt [.dash, .blockEnd] || (!isIndented && s.isAt [.key, .value]) then
          pure (emptyNode, s)
        else node handles fuel .block s
      items handles fuel isIndented tag (n :: done) s
    else if !isIndented then .ok (.list tag done.reverse, s)
    else (s.expect .blockEnd).map fun s => (.list tag done.reverse, s)
/-- Reads the entries of a block mapping behind those already read, in reverse. -/
def entries (handles : Handles) (fuel : Nat) (tag : Tag) (done : List (Node × Node)) (s : Progress) :
    Except DataFault (Node × Progress) :=
  match fuel with
  | 0 => malformed
  | fuel + 1 =>
    if s.isAt [.key] then do
      let (k, s) ← blockPart handles fuel s.next
      let (v, s) ← if s.isAt [.value] then blockPart handles fuel s.next else pure (emptyNode, s)
      entries handles fuel tag ((k, v) :: done) s
    else (s.expect .blockEnd).map fun s => (.mapping tag done.reverse, s)
/-- Reads a key or a value of a block mapping, which may be missing. -/
def blockPart (handles : Handles) (fuel : Nat) (s : Progress) : Except DataFault (Node × Progress) :=
  match fuel with
  | 0 => malformed
  | fuel + 1 =>
    if s.isAt [.key, .value, .blockEnd] then .ok (emptyNode, s) else node handles fuel .behindKey s
/-- Reads a key or a value inside brackets, which may be missing before one of the given tokens. -/
def flowPart (handles : Handles) (fuel : Nat) (before : List Token) (s : Progress) :
    Except DataFault (Node × Progress) :=
  match fuel with
  | 0 => malformed
  | fuel + 1 => if s.isAt before then .ok (emptyNode, s) else node handles fuel .flow s
/-- Reads a key that has been announced, and its value if there is one. -/
def flowPair (handles : Handles) (fuel : Nat) (close : Token) (s : Progress) :
    Except DataFault ((Node × Node) × Progress) :=
  match fuel with
  | 0 => malformed
  | fuel + 1 => do
    let (k, s) ← flowPart handles fuel [.value, .comma, close] s
    let (v, s) ←
      if s.isAt [.value] then flowPart handles fuel [.comma, close] s.next else pure (emptyNode, s)
    return ((k, v), s)
/-- Reads the items of a list in brackets behind those already read, in reverse; a key makes an item a
mapping of its own. -/
def flowItems (handles : Handles) (fuel : Nat) (tag : Tag) (done : List Node) (s : Progress) :
    Except DataFault (Node × Progress) :=
  match fuel with
  | 0 => malformed
  | fuel + 1 => do
    if s.isAt [.flowListEnd] then return (.list tag done.reverse, s.next)
    else
      let s ← if done.isEmpty then pure s else s.expect .comma
      if s.isAt [.flowListEnd] then return (.list tag done.reverse, s.next)
      else
        let (n, s) ←
          if s.isAt [.key] then do
            let (e, s) ← flowPair handles fuel .flowListEnd s.next
            pure (Node.mapping .mapping [e], s)
          else node handles fuel .flow s
        flowItems handles fuel tag (n :: done) s
/-- Reads the entries of a mapping in brackets behind those already read, in reverse. -/
def flowEntries (handles : Handles) (fuel : Nat) (tag : Tag) (done : List (Node × Node))
    (s : Progress) : Except DataFault (Node × Progress) :=
  match fuel with
  | 0 => malformed
  | fuel + 1 => do
    if s.isAt [.flowMappingEnd] then return (.mapping tag done.reverse, s.next)
    else
      let s ← if done.isEmpty then pure s else s.expect .comma
      if s.isAt [.flowMappingEnd] then return (.mapping tag done.reverse, s.next)
      else
        let (e, s) ←
          if s.isAt [.key] then flowPair handles fuel .flowMappingEnd s.next
          else do
            let (k, s) ← node handles fuel .flow s
            pure ((k, emptyNode), s)
        flowEntries handles fuel tag (e :: done) s
end

/-! ## Documents -/

/-- The handles that need no directive. -/
def usualHandles : Handles :=
  [("!", "!"), ("!!", commonStart)]

/-- The directives in front of a document: the handles they explain, and what follows them.  The version
must be 1 and be given once at most, and each handle may be explained only once. -/
def directives (hasVersion : Bool) (handles : Handles) : List Token → Except DataFault (Handles × List Token)
  | .directive (.version major) :: r =>
    if hasVersion || major ≠ 1 then malformed else directives true handles r
  | .directive (.handle name start) :: r =>
    if handles.any fun h => h.1 == name then malformed
    else directives hasVersion (handles ++ [(name, start)]) r
  | .directive .other :: r => directives hasVersion handles r
  | r => .ok (handles ++ usualHandles, r)

def isOutside : Token → Bool
  | .directive _ | .documentStart | .documentEnd => true
  | _ => false

def content (handles : Handles) (ts : List Token) : Except DataFault (Node × List Token) :=
  (node handles (4 * ts.length + 4) .block ⟨ts, []⟩).map fun r => (r.1, r.2.tokens)

/-- What follows the marks at the end of a document; nothing may. -/
def finish (r : Node × List Token) : Except DataFault Node :=
  match r.2.dropWhile fun t => t == .documentEnd with
  | [] => .ok r.1
  | ts => Progress.fail ⟨ts, []⟩

/-- The node of the only document in a row of tokens; `none` if there is no document. -/
def document (ts : List Token) : Except DataFault (Option Node) :=
  match ts with
  | [] => .ok none
  | .documentEnd :: _ => malformed
  | t :: _ =>
    if !isOutside t then ((content usualHandles ts).bind finish).map some
    else do
      let (handles, r) ← directives false [] ts
      match r with
      | .documentStart :: r =>
        if r.isEmpty || (r.head?.any isOutside) then (finish (emptyNode, r)).map some
        else ((content handles r).bind finish).map some
      | r => Progress.fail ⟨r, []⟩

end Daihon.Yaml

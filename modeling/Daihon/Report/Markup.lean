import Daihon.Report.Picture
import Daihon.Report.Style
import Daihon.Text.Search

/-!
# Markup

Text for the terminal may hold style tags: a bracket, a name and what belongs to it, and a bracket.  The
name starts with a lower-case letter, a slash, a number sign or an at sign.  Tags do not show, but they
must match: a tag with a slash closes the latest open tag of its style, or the latest of all if it names
none.  A backslash in front of a tag makes it plain text, and two backslashes show as one.  Pictures are
put in place of their names in the plain text between tags, and a few control characters do not show.

* `Piece.all` takes a text apart into plain pieces and tags;
* `shown` is what shows of a text, or the tag that closes nothing.
-/

namespace Daihon.Report

/-! ## Pieces -/

/-- A tag: its name, and what stands behind an equals sign. -/
structure Tag where
  name : List Char
  parameters : Option (List Char)
  deriving DecidableEq, Repr

def Tag.text (t : Tag) : List Char :=
  '[' :: t.name ++ (t.parameters.map ('=' :: ·)).getD [] ++ [']']

/-- The tag with the given text between its brackets. -/
def Tag.ofBody (body : List Char) : Tag :=
  let name := body.takeWhile fun c => c != '='
  match body.dropWhile fun c => c != '=' with
  | _ :: parameters => ⟨name, some parameters⟩
  | [] => ⟨name, none⟩

/-- A piece of a text with markup: plain text, or a tag and where it stands. -/
inductive Piece where
  | plain (s : List Char)
  | tag (position : Nat) (t : Tag)
  deriving DecidableEq, Repr

/-- Whether `c` may follow the bracket that opens a tag. -/
def startsTag (c : Char) : Bool :=
  ('a' ≤ c && c ≤ 'z') || c == '#' || c == '/' || c == '@'

/-- The text between the brackets of the tag at the start of `s`, and what follows it. -/
def tagBody? (s : List Char) : Option (List Char × List Char) :=
  match s with
  | '[' :: c :: rest =>
    if startsTag c then
      let body := rest.takeWhile fun c => c != '[' && c != ']'
      match rest.dropWhile fun c => c != '[' && c != ']' with
      | ']' :: rest => some (c :: body, rest)
      | _ => none
    else none
  | _ => none

/-- A piece of plain text, unless it is empty. -/
def plainPiece (s : List Char) : List Piece :=
  if s.isEmpty then [] else [.plain s]

/-- A tag behind so many backslashes, at `position` in its text: half of the backslashes show, and an odd
one makes the tag plain text. -/
def tagPieces (position slashes : Nat) (body : List Char) : List Piece :=
  plainPiece (List.replicate (slashes / 2) '\\') ++
    if slashes % 2 = 1 then [.plain ('[' :: body ++ [']'])]
    else [.tag (position + slashes) (.ofBody body)]

/-- The pieces of a text.  `held` is the plain text, reversed, since the last tag or since the last
backslash; `slashes` backslashes follow it, the first of them at `position`. -/
def piecesFrom (fuel : Nat) (held : List Char) (position slashes : Nat) (s : List Char) :
    List Piece :=
  match fuel, s with
  | 0, _ | _, [] => plainPiece (held.reverse ++ List.replicate slashes '\\')
  | fuel + 1, c :: s =>
    if c = '\\' then piecesFrom fuel held position (slashes + 1) s
    else
      match tagBody? (c :: s) with
      | some (body, rest) =>
        plainPiece held.reverse ++ tagPieces position slashes body ++
          piecesFrom fuel [] (position + slashes + body.length + 2) 0 rest
      | none =>
        piecesFrom fuel (c :: List.replicate slashes '\\' ++ held) (position + slashes + 1) 0 s

def Piece.all (s : List Char) : List Piece :=
  piecesFrom s.length [] 0 0 s

/-! ## What shows -/

inductive MarkupError where
  /-- A closing tag names a style that is not open. -/
  | unmatched (tag : String) (position : Nat)
  /-- Nothing is open that a closing tag without a name could close. -/
  | nothingOpen (position : Nat)
  /-- A part of a colour is empty. -/
  | emptyPart
  deriving DecidableEq, Repr

def MarkupError.text : MarkupError → String
  | .unmatched tag position =>
    "closing tag '" ++ tag ++ "' at position " ++ toString position ++ " doesn't match any open tag"
  | .nothingOpen position =>
    "closing tag '[/]' at position " ++ toString position ++ " has nothing to close"
  | .emptyPart => "invalid literal for int() with base 10: ''"

/-- The normal form of the name of a tag. -/
def tagStyle (name : List Char) : Except MarkupError String :=
  match normalStyle name with
  | .ok style => .ok style
  | .error .emptyPart => .error .emptyPart

/-- The open styles, the latest first, after a tag. -/
def openAfter (opened : List String) (position : Nat) (t : Tag) : Except MarkupError (List String) :=
  match t.name with
  | '/' :: name =>
    let name := Text.trim name
    if name.isEmpty then
      match opened with
      | [] => .error (.nothingOpen position)
      | _ :: rest => .ok rest
    else
      match tagStyle name with
      | .error e => .error e
      | .ok style =>
        if opened.contains style then .ok (opened.erase style)
        else .error (.unmatched (.ofList t.text) position)
  | name => (tagStyle name).map (· :: opened)

/-- Text between tags, in which a backslash in front of a bracket does not show. -/
def unescape : List Char → List Char
  | [] => []
  | '\\' :: '[' :: s => '[' :: unescape s
  | c :: s => c :: unescape s

/-- What shows of a row of pieces behind open styles. -/
def showPieces (opened : List String) : List Piece → Except MarkupError (List Char)
  | [] => .ok []
  | .plain s :: rest => (showPieces opened rest).map (withPictures (unescape s) ++ ·)
  | .tag position t :: rest =>
    match openAfter opened position t with
    | .error e => .error e
    | .ok opened => showPieces opened rest

/-- Whether `c` is a control character that does not show. -/
def isDropped (c : Char) : Bool :=
  [7, 8, 11, 12, 13].contains c.toNat

/-- What shows of a text in which pictures, but no tags, are looked for. -/
def shownPlain (s : List Char) : List Char :=
  (withPictures s).filter fun c => !isDropped c

def shown (s : List Char) : Except MarkupError (List Char) :=
  (showPieces [] (Piece.all s)).map fun s => s.filter fun c => !isDropped c

end Daihon.Report

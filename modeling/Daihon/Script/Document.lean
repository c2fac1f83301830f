import Daihon.Failure
import Daihon.Notice
import Daihon.Script.Choice
import Daihon.Script.Line
import Daihon.Text.Lines

/-!
# Documents

A document is a script read as a whole: its title, its chapter, and one scene for each line that is
not structural, in order.  Scenes are numbered from 1 without gaps and remember the line they come
from.

* `Document.ofText` reads a script;
* `Document.script` writes the canonical script of a document, which reads back as the document up to
  line numbers.
-/

namespace Daihon.Script

inductive SceneType where
  | directive
  | dialogue
  | choice
  | background
  | character
  deriving DecidableEq, Repr

namespace SceneType

def all : List SceneType :=
  [directive, dialogue, choice, background, character]

def name : SceneType → String
  | directive => "directive"
  | dialogue => "dialogue"
  | choice => "choice"
  | background => "background"
  | character => "character"

def ofName? (name : String) : Option SceneType :=
  all.find? fun type => type.name == name

end SceneType

/-- A scene.  Fields that do not apply to it are unset. -/
structure Scene where
  id : String
  type : SceneType
  content : String
  number : Int
  lineNumber : Int
  character : Option String := none
  background : Option String := none
  bgm : Option String := none
  se : Option String := none
  choices : Option (List Choice) := none
  isMonologue : Option Bool := none
  deriving DecidableEq, Repr

/-- A script read as a whole. -/
structure Document where
  title : String
  chapter : String
  scenes : List Scene
  deriving DecidableEq, Repr

/-! ## Scenes -/

/-- The scene that a directive makes: the field of its kind holds its value. -/
def Directive.scene (d : Directive) (line : List Char) (number lineNumber : Nat) : Scene :=
  let scene : Scene :=
    { id := s!"scene_{number}"
      type := .directive
      content := .ofList (Text.trim line)
      number := number
      lineNumber := lineNumber }
  match d.kind with
  | .background => { scene with background := some d.value }
  | .bgm => { scene with bgm := some d.value }
  | .se => { scene with se := some d.value }
  | .character => { scene with character := some d.value }

def Speech.scene (s : Speech) (number lineNumber : Nat) : Scene :=
  { id := s!"scene_{number}"
    type := .dialogue
    content := s.text
    number := number
    lineNumber := lineNumber
    character := some s.character
    isMonologue := some s.isMonologue }

/-- The scene that a line makes, unless it is structural. -/
def scene? (line : List Char) (number lineNumber : Nat) : Option Scene :=
  match directive? line with
  | some d => some (d.scene line number lineNumber)
  | none => (speech? line).map fun s => s.scene number lineNumber

/-- The scenes of the lines, the first of which has number `lineNumber`; `number` is the number of
the next scene. -/
def scenesFrom (number lineNumber : Nat) : List (List Char) → List Scene
  | [] => []
  | line :: ls =>
    match scene? line number lineNumber with
    | some scene => scene :: scenesFrom (number + 1) (lineNumber + 1) ls
    | none => scenesFrom number (lineNumber + 1) ls

/-! ## Documents -/

/-- What follows the mark on the first line that starts with it, trimmed; empty if no line does. -/
def header (mark : List Char) : List (List Char) → String
  | [] => ""
  | line :: ls =>
    match Text.after? mark (Text.trim line) with
    | some rest => .ofList (Text.trim rest)
    | none => header mark ls

def Document.ofLines (ls : List (List Char)) : Document :=
  { title := header titleMark ls
    chapter := header chapterMark ls
    scenes := scenesFrom 1 1 ls }

/-- The document of a script. -/
def Document.ofText (text : String) : Document :=
  .ofLines (Text.lines text.toList)

/-- What is reported about a script that has been read: its title, the number of its scenes, and the
number of lines that make none. -/
def Document.notice (text : String) : Notice :=
  let ls := Text.lines text.toList
  let doc := Document.ofLines ls
  .scenarioParsed doc.title doc.scenes.length (ls.length - doc.scenes.length)

def Document.dialogueScenes (doc : Document) : List Scene :=
  doc.scenes.filter fun scene => scene.type = .dialogue

def Document.directiveScenes (doc : Document) : List Scene :=
  doc.scenes.filter fun scene => scene.type = .directive

/-- What is handed in where a script is expected: a text, or something of another type. -/
inductive Input where
  | text (s : String)
  | other (typeName : String)
  deriving DecidableEq, Repr

def notScript (typeName : String) : Diagnostic :=
  { kind := .parse
    message := "Invalid scenario content: expected a string"
    hint := some "Read the script file as text before parsing it."
    details := some [("received_type", .text typeName)] }

/-- Reads a script, together with what is reported about it. -/
def Document.read : Input → Except Failure (Document × List Notice)
  | .text s => .ok (.ofText s, [Document.notice s])
  | .other typeName => .error (.diagnosed (notScript typeName))

/-! ## The canonical script -/

/-- The line of the canonical script for a scene. -/
def Scene.line (scene : Scene) : List Char :=
  let content := scene.content.toList
  let character := (scene.character.getD "").toList
  if scene.type = .directive then content
  else if scene.isMonologue = some true then
    if content.isEmpty then monologueMark ++ character else content
  else if character.isEmpty then openQuote :: content ++ [closeQuote]
  else character

/-- The lines of the canonical script of a document. -/
def Document.scriptLines (doc : Document) : List (List Char) :=
  (titleMark ++ doc.title.toList) :: (chapterMark ++ doc.chapter.toList) :: doc.scenes.map Scene.line

/-- The canonical script of a document. -/
def Document.script (doc : Document) : String :=
  .ofList (Text.unlines doc.scriptLines)

end Daihon.Script

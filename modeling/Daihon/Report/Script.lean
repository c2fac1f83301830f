import Daihon.Json.Printer
import Daihon.Report.Grid
import Daihon.Script.Document

/-!
# Reports on scripts

A document and a row of choices are reported as data, in which fields that are unset are left out, or
as a grid with one row for each scene or choice.  Data are printed as JSON; where integers are printed with
so many digits at most, data with a longer one are not printed at all (`json`).
-/

namespace Daihon.Report

open Script

/-! ## Choices -/

def choiceValue (c : Choice) : Value :=
  .table
    [("id", .text c.id), ("text", .text c.text), ("next_scene", .text c.nextScene),
      ("route_change", (c.routeChange.map Value.text).getD .null)]

def choicesValue (cs : List Choice) : Value :=
  .list (cs.map choiceValue)

/-- What is shown in place of a grid without choices. -/
def noChoices : String := "No choices found\n"

def choicesGrid (cs : List Choice) : Grid :=
  { columns := [⟨"ID", .left⟩, ⟨"Text", .left⟩, ⟨"Next Scene", .left⟩, ⟨"Route", .left⟩]
    rows := cs.map fun c => [c.id, c.text, c.nextScene, c.routeChange.getD ""] }

/-- The grid of a row of choices, if there are any. -/
def choicesGrid? (cs : List Choice) : Option Grid :=
  if cs.isEmpty then none else some (choicesGrid cs)

def choicesText (cs : List Choice) : Except MarkupError String :=
  match choicesGrid? cs with
  | none => .ok noChoices
  | some grid => grid.text

/-! ## Documents -/

/-- A field of a scene, if it is set. -/
def optionalField (name : String) (v : Option Value) : Daihon.Table Value :=
  match v with
  | none => []
  | some v => [(name, v)]

def sceneValue (s : Scene) : Value :=
  .table <|
    [("id", .text s.id), ("type", .text s.type.name), ("content", .text s.content),
        ("number", .int s.number), ("line_number", .int s.lineNumber)] ++
      optionalField "character" (s.character.map .text) ++
      optionalField "background" (s.background.map .text) ++
      optionalField "bgm" (s.bgm.map .text) ++
      optionalField "se" (s.se.map .text) ++
      optionalField "choices" (s.choices.map choicesValue) ++
      optionalField "is_monologue" (s.isMonologue.map .bool)

def documentValue (doc : Document) : Value :=
  .table
    [("title", .text doc.title), ("chapter", .text doc.chapter),
      ("scenes", .list (doc.scenes.map sceneValue))]

/-- The field of a directive that is shown: the first that is set. -/
def shownDirective? (s : Scene) : Option (String × String) :=
  if s.type = .directive then
    [("background", s.background), ("bgm", s.bgm), ("se", s.se),
      ("character", s.character)].findSome? fun (name, value) => value.map fun v => (name, v)
  else none

/-- Who speaks in a scene, and whether it is a monologue. -/
def speakerDetail (s : Scene) : String :=
  let isMonologue := s.isMonologue.getD false
  let character := s.character.getD ""
  if character.isEmpty then if isMonologue then "monologue" else ""
  else character ++ if isMonologue then " (monologue)" else ""

/-- The detail shown of a scene: its directive, or who speaks. -/
def sceneDetail (s : Scene) : String :=
  match shownDirective? s with
  | some (name, value) => name ++ ": " ++ value
  | none => speakerDetail s

/-- What is shown in place of an empty title. -/
def untitled : String := "Untitled"

def documentGrid (doc : Document) : Grid :=
  { title := some (if doc.title.isEmpty then untitled else doc.title)
    caption := if doc.chapter.isEmpty then none else some doc.chapter
    columns := [⟨"ID", .left⟩, ⟨"Line", .right⟩, ⟨"Type", .left⟩, ⟨"Detail", .left⟩,
      ⟨"Content", .left⟩]
    rows := doc.scenes.map fun s =>
      [s.id, toString s.lineNumber, s.type.name, sceneDetail s, s.content] }

/-! ## Data as JSON -/

/-- The JSON text of data, where integers are printed with `limit` digits at most, if there is a limit. -/
def json (limit : Option Nat) (v : Value) : Except Failure String :=
  match limit with
  | none => .ok (Json.print v)
  | some n => if Json.fits n v then .ok (Json.print v) else .error (.unprintable n)

end Daihon.Report

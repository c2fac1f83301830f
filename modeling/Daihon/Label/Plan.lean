import Daihon.Failure
import Daihon.Script.Document

/-!
# Step plans

A label is planned line by line: every line that is not structural becomes one step, and every step
remembers who is speaking, which only a header with a name changes.  Steps are counted from 0 without
gaps.
-/

namespace Daihon.Label

open Script

inductive StepKind where
  | background
  | bgm
  | se
  | character
  | dialogue
  | monologue
  deriving DecidableEq, Repr

def StepKind.name : StepKind → String
  | background => "background"
  | bgm => "bgm"
  | se => "se"
  | character => "character"
  | dialogue => "dialogue"
  | monologue => "monologue"

/-- Whether a step says something, as opposed to a step that carries out a directive. -/
def StepKind.isSpeech : StepKind → Bool
  | dialogue | monologue => true
  | _ => false

/-- The kind of step that carries out a directive. -/
def StepKind.ofDirective : DirectiveKind → StepKind
  | .background => background
  | .bgm => bgm
  | .se => se
  | .character => character

/-- The kind of step that says a line of speech. -/
def StepKind.ofSpeech (s : Speech) : StepKind :=
  if s.isMonologue then monologue else dialogue

/-- The description of a step. -/
structure Plan where
  index : Nat
  kind : StepKind
  content : String
  /-- Who is speaking when the step comes. -/
  character : String
  lineNumber : Nat
  deriving DecidableEq, Repr

/-- Who speaks after a line of speech: the character it names, or whoever spoke before. -/
def nextSpeaker (speaker : String) (s : Speech) : String :=
  if s.character.isEmpty then speaker else s.character

/-- The plans of the lines, the first of which has number `lineNumber`; `index` is the index of the
next step, and `speaker` speaks before the lines. -/
def plansFrom (index lineNumber : Nat) (speaker : String) : List (List Char) → List Plan
  | [] => []
  | line :: ls =>
    match content? line with
    | none => plansFrom index (lineNumber + 1) speaker ls
    | some (.directive d) =>
      ⟨index, .ofDirective d.kind, d.value, speaker, lineNumber⟩ ::
        plansFrom (index + 1) (lineNumber + 1) speaker ls
    | some (.speech s) =>
      let speaker := nextSpeaker speaker s
      ⟨index, .ofSpeech s, s.text, speaker, lineNumber⟩ ::
        plansFrom (index + 1) (lineNumber + 1) speaker ls

/-- The plans of a script. -/
def plansOf (text : String) : List Plan :=
  plansFrom 0 1 "" (Text.lines text.toList)

def notPlannable (typeName : String) : Diagnostic :=
  { kind := .parse
    message := "Invalid scenario text: expected a string"
    details := some [("received_type", .text typeName)] }

def readPlans : Input → Except Failure (List Plan)
  | .text s => .ok (plansOf s)
  | .other typeName => .error (.diagnosed (notPlannable typeName))

end Daihon.Label

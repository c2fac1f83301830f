import Daihon.Label.Plan
import Daihon.Label.Stage
import Daihon.Settings.Field

/-!
# Running labels

A label is run step by step, each step to its end before the next one starts.  A step that carries out
a directive is degraded if its collaborator fails, and the run goes on; only what is meant to end whatever
is running ends the run there.  A step of speech looks up the display name of the speaker, has the dialogue
shown and notifies; any failure in it ends the run.

Steps are written for any world in which notices and calls can be made (`World`), so that a stage can be
run beside a record of what happens on it.

* `Compiled.runStep` runs one step by its index;
* `Compiled.run` runs all steps and closes with a notice.
-/

namespace Daihon.Label

/-- The result of a step: degraded steps have a reason. -/
structure StepResult where
  index : Nat
  kind : StepKind
  reason : Option String := none
  deriving DecidableEq, Repr

/-- Whether a step has only been carried out in part. -/
def StepResult.isDegraded (r : StepResult) : Bool :=
  r.reason.isSome

def StepResult.status (r : StepResult) : String :=
  if r.isDegraded then "degraded" else "ok"

/-! ## What steps ask for -/

/-- The background: centred on the stage and as large as it. -/
def backgroundLayer (settings : Settings) (source : String) : Layer :=
  let width := settings.stageWidth.value
  let height := settings.stageHeight.value
  { x := width / 2, y := height / 2, width, height, anchorX := 0.5, anchorY := 0.5, source }

/-- A portrait: in the middle of the stage, its lower edge on the baseline. -/
def portraitLayer (settings : Settings) (source : String) : Layer :=
  { x := settings.stageWidth.value / 2
    y := settings.portraitBaseline
    width := settings.portraitWidth.value
    height := settings.portraitHeight.value
    anchorX := 0.5
    anchorY := 1.0
    source }

def bgmPlayback (settings : Settings) : Playback :=
  ⟨settings.bgmTrack, settings.bgmLoop, settings.bgmVolume.value⟩

/-- The request to play a sound effect; it is never looped. -/
def sePlayback (settings : Settings) : Playback :=
  ⟨settings.seTrack, false, settings.seVolume.value⟩

/-- The reason for which a failure degrades a step. -/
def reasonOf (f : Failure) : String :=
  f.name ++ ": " ++ f.text

/-! ## Steps -/

/-- Where labels are run: what a notice and a call make of the world, and how a call is answered; the call
that looks up a name is answered with the name. -/
structure World (σ : Type) where
  note : Notice → σ → σ
  ask : Call → σ → Except Failure Unit × σ
  lookup : String → σ → Except Failure (Option String) × σ

/-- Goes on with `next` unless there was a failure. -/
def andThen {σ α β : Type} (o : Except Failure α × σ) (next : α → σ → Except Failure β × σ) :
    Except Failure β × σ :=
  match o with
  | (.error f, s) => (.error f, s)
  | (.ok a, s) => next a s

namespace World

variable {σ : Type} (w : World σ) (settings : Settings)

/-- Carries out a directive: reports the cue and asks the collaborator. -/
def direct (kind : StepKind) (content : String) (s : σ) : Except Failure Unit × σ :=
  match kind with
  | .background =>
    w.ask (.addLayer .background (backgroundLayer settings content)) (w.note (.cue .background content) s)
  | .character =>
    w.ask (.addLayer .character (portraitLayer settings content)) (w.note (.cue .character content) s)
  | .bgm => w.ask (.play (bgmPlayback settings)) (w.note (.cue .bgm content) s)
  | .se => w.ask (.play (sePlayback settings)) (w.note (.cue .se content) s)
  | .dialogue | .monologue => (.ok (), s)

/-- A directive step.  A failure arrives here out of the coroutine that carries out the directive; it
degrades the step if it can be handled, and else escapes. -/
def directiveStep (plan : Plan) (s : σ) : Except Failure StepResult × σ :=
  match w.direct settings plan.kind plan.content s with
  | (.ok (), s) => (.ok ⟨plan.index, plan.kind, none⟩, s)
  | (.error f, s) =>
    let f := f.leaving
    if f.isError then
      (.ok ⟨plan.index, plan.kind, some (reasonOf f)⟩,
        w.note (.stepFailed plan.index plan.kind.name plan.content f.text) s)
    else (.error f, s)

/-- The name to show for a character: a name the settings know is looked up in the registry, and where
there is nothing to show instead the name itself is shown. -/
def displayName (name : String) (s : σ) : Except Failure String × σ :=
  match Table.get? settings.characterKeys name with
  | none => (.ok name, s)
  | some key =>
    andThen (w.lookup key s) fun found s =>
      (.ok ((found.filter fun shown => !shown.isEmpty).getD name), s)

/-- Says a line: looks up the name, shows the dialogue, and notifies. -/
def speak (plan : Plan) (s : σ) : Except Failure Unit × σ :=
  andThen (w.displayName settings plan.character s) fun name s =>
    let record : Record := ⟨name, plan.content, plan.kind = .monologue⟩
    andThen (w.ask (.setDialogue record) s) fun _ s => w.ask (.notify record) s

/-- A speech step: a failure escapes out of the coroutine that the step is. -/
def speechStep (plan : Plan) (s : σ) : Except Failure StepResult × σ :=
  match w.speak settings plan s with
  | (.ok (), s) => (.ok ⟨plan.index, plan.kind, none⟩, s)
  | (.error f, s) => (.error f.leaving, s)

/-- Runs the step that a plan describes. -/
def runPlan (plan : Plan) (s : σ) : Except Failure StepResult × σ :=
  if plan.kind.isSpeech then w.speechStep settings plan s else w.directiveStep settings plan s

/-- Runs the steps that plans describe, in order, up to the first that fails. -/
def runPlans : List Plan → σ → Except Failure (List StepResult) × σ
  | [], s => (.ok [], s)
  | plan :: plans, s =>
    andThen (w.runPlan settings plan s) fun r s =>
      andThen (runPlans plans s) fun rs s => (.ok (r :: rs), s)

end World

/-! ## Labels -/

structure Compiled where
  id : String
  plans : List Plan
  settings : Settings

/-- The name of the label that a script opens with. -/
def prologueId : String := "prologue"

/-- The label of a script, and the notice that it has been compiled. -/
def compile (id : String) (text : Script.Input) (settings : Settings) :
    Except Failure (Compiled × Notice) :=
  (readPlans text).map fun plans => (⟨id, plans, settings⟩, .labelCompiled id plans.length)

/-- The diagnostic for a step that a label does not have. -/
def noStep (id : String) (steps : Nat) (index : Int) : Diagnostic :=
  { kind := .stepExecution
    message := "Step " ++ toString index ++ " does not exist in label '" ++ id ++ "'"
    hint := some "Step indices start at 0."
    details := some [("label", .text id), ("steps", .int steps)] }

namespace Compiled

def plan? (l : Compiled) (i : Int) : Option Plan :=
  if i < 0 then none else l.plans[i.toNat]?

def closing (id : String) (results : List StepResult) : Notice :=
  let degraded := (results.filter StepResult.isDegraded).map StepResult.index
  if degraded.isEmpty then .labelFinished id results.length else .labelDegraded id degraded

end Compiled

namespace World

variable {σ : Type} (w : World σ)

/-- Compiles a script.  The collaborators are there, but only a notice is made. -/
def create (id : String) (text : Script.Input) (settings : Settings) (s : σ) :
    Except Failure Compiled × σ :=
  match compile id text settings with
  | .error f => (.error f, s)
  | .ok (l, notice) => (.ok l, w.note notice s)

/-- Runs all steps of a label. -/
def run (l : Compiled) (s : σ) : Except Failure (List StepResult) × σ :=
  andThen (w.runPlans l.settings l.plans s) fun results s =>
    (.ok results, w.note (Compiled.closing l.id results) s)

/-- The stage as a world. -/
def ofStage (cast : Cast) : World Stage where
  note n s := s.note n
  ask c s := s.ask cast c
  lookup key s := s.lookup cast key

end World

/-! ## On the stage -/

/-- Runs the step that a plan describes on the stage. -/
def runPlan (settings : Settings) (cast : Cast) (plan : Plan) (s : Stage) : Outcome StepResult :=
  (World.ofStage cast).runPlan settings plan s

def create (cast : Cast) (id : String) (text : Script.Input) (settings : Settings) (s : Stage) :
    Outcome Compiled :=
  (World.ofStage cast).create id text settings s

namespace Compiled

/-- Runs the steps that plans describe on the stage. -/
def runPlans (settings : Settings) (cast : Cast) (plans : List Plan) (s : Stage) :
    Outcome (List StepResult) :=
  (World.ofStage cast).runPlans settings plans s

/-- Runs the step with index `i`. -/
def runStep (l : Compiled) (cast : Cast) (i : Int) (s : Stage) : Outcome StepResult :=
  match l.plan? i with
  | none => (.error (.diagnosed (noStep l.id l.plans.length i)), s)
  | some plan => runPlan l.settings cast plan s

/-- Runs all steps of a label on the stage. -/
def run (l : Compiled) (cast : Cast) (s : Stage) : Outcome (List StepResult) :=
  (World.ofStage cast).run l s

end Compiled

/-- Something done with a label: all of it is run, or one step. -/
inductive Action where
  | run
  | step (index : Int)
  deriving DecidableEq, Repr

/-- What an action answers: the results of the steps it ran, in order. -/
def Compiled.act (l : Compiled) (cast : Cast) (a : Action) (s : Stage) : Outcome (List StepResult) :=
  match a with
  | .run => l.run cast s
  | .step i =>
    match l.runStep cast i s with
    | (.error f, s) => (.error f, s)
    | (.ok r, s) => (.ok [r], s)

/-- What is known after each of a row of actions, which go on after failures. -/
def Compiled.perform (l : Compiled) (cast : Cast) : List Action → Stage → List (Outcome (List StepResult))
  | [], _ => []
  | a :: as, s =>
    let outcome := l.act cast a s
    outcome :: l.perform cast as outcome.2

end Daihon.Label

import Daihon.Failure
import Daihon.Notice
import Daihon.Value.Basic

/-!
# The stage

A running label asks its collaborators for things: the engine to place layers and to show dialogue, the
audio layer to play, the registry for display names, the notifier to tell that dialogue has changed.
The stage is everything that can be seen of this: the calls, in order, what they left behind, and the
notices made on the way.

Any call may fail, by a schedule that says for each collaborator which of its calls fails and how.  The
engine may answer the request for a layer at once or when it is waited for.
-/

namespace Daihon.Label

inductive LayerId where
  | background
  | character
  deriving DecidableEq, Repr

def LayerId.name : LayerId → String
  | background => "background"
  | character => "character"

/-- How a layer is placed: its position and size, the point of it that stands there, as parts of its
width and height, and what it shows. -/
structure Layer where
  x : Nat
  y : Nat
  width : Nat
  height : Nat
  anchorX : Float
  anchorY : Float
  source : String

structure Record where
  character : String
  text : String
  isMonologue : Bool
  deriving DecidableEq, Repr

structure Playback where
  track : String
  loop : Bool
  volume : Float

inductive Collaborator where
  | engineLayers
  | engineDialogue
  | audio
  | registry
  | notifier
  deriving DecidableEq, Repr

inductive Call where
  | addLayer (id : LayerId) (layer : Layer)
  | setDialogue (record : Record)
  | play (playback : Playback)
  | lookup (key : String)
  | notify (record : Record)

/-- Whom a call goes to. -/
def Call.collaborator : Call → Collaborator
  | addLayer .. => .engineLayers
  | setDialogue _ => .engineDialogue
  | play _ => .audio
  | lookup _ => .registry
  | notify _ => .notifier

/-- What can be seen of the collaborators: a call, or that a layer asked for is in place. -/
inductive Event where
  | call (c : Call)
  | layerDone (id : LayerId)

/-- How an engine answers the request for a layer. -/
inductive Delivery where
  /-- The layer is placed at once, and there is no answer. -/
  | immediate
  /-- The layer is placed at once, and the answer is a value that cannot be waited for. -/
  | value
  /-- The layer is placed when it is waited for, after control has been given up so many times. -/
  | awaited (yields : Nat)
  deriving DecidableEq, Repr

/-- What the collaborators of a label are like: the names in the registry, how the engine answers, and
for each collaborator and number of a call, counted from 0, how the call fails. -/
structure Cast where
  names : Table String
  delivery : Delivery
  fault : Collaborator → Nat → Option Failure

/-- What can be seen of a run. -/
structure Stage where
  /-- The number of calls of each collaborator whose outcome has been settled. -/
  calls : Collaborator → Nat
  events : List Event
  layers : List (LayerId × Layer)
  played : List Playback
  dialogue : Option Record
  history : List Record
  notified : List Record
  notices : List Notice

/-- The outcome of something done on a stage: an answer or a failure, and the stage after it. -/
abbrev Outcome (α : Type) := Except Failure α × Stage

namespace Stage

def empty : Stage where
  calls := fun _ => 0
  events := []
  layers := []
  played := []
  dialogue := none
  history := []
  notified := []
  notices := []

def emit (s : Stage) (e : Event) : Stage :=
  { s with events := s.events ++ [e] }

def note (s : Stage) (n : Notice) : Stage :=
  { s with notices := s.notices ++ [n] }

def count (s : Stage) (who : Collaborator) : Stage :=
  { s with calls := fun c => if c = who then s.calls c + 1 else s.calls c }

/-- Settles a call of `who`: it fails by the schedule, and else goes on with `act`. -/
def settle {α : Type} (cast : Cast) (who : Collaborator) (act : Stage → α × Stage) (s : Stage) :
    Outcome α :=
  match cast.fault who (s.calls who) with
  | some f => (.error f, s.count who)
  | none => let (a, s) := act (s.count who); (.ok a, s)

/-- The engine's answer to the request for a layer. -/
inductive Reply where
  | nothing
  | value
  | pending (yields : Nat)

def place (cast : Cast) (id : LayerId) (layer : Layer) (s : Stage) : Outcome Unit :=
  s.settle cast .engineLayers fun s => ((), { s with layers := s.layers ++ [(id, layer)] })

def requestLayer (cast : Cast) (id : LayerId) (layer : Layer) (s : Stage) : Outcome Reply :=
  let s := s.emit (.call (.addLayer id layer))
  match cast.delivery with
  | .immediate =>
    match s.place cast id layer with
    | (.error f, s) => (.error f, s)
    | (.ok (), s) => (.ok .nothing, s)
  | .value =>
    match s.place cast id layer with
    | (.error f, s) => (.error f, s)
    | (.ok (), s) => (.ok .value, s)
  | .awaited yields => (.ok (.pending yields), s)

/-- Waits for a layer: control is given up and taken back as often as the engine asks, then the layer is
placed and reported done. -/
def awaitLayer (cast : Cast) (id : LayerId) (layer : Layer) : Nat → Stage → Outcome Unit
  | 0, s =>
    match s.place cast id layer with
    | (.error f, s) => (.error f, s)
    | (.ok (), s) => (.ok (), s.emit (.layerDone id))
  | yields + 1, s => awaitLayer cast id layer yields s

/-- Asks the engine for a layer, and waits for it if the answer can be waited for. -/
def addLayer (cast : Cast) (id : LayerId) (layer : Layer) (s : Stage) : Outcome Unit :=
  match s.requestLayer cast id layer with
  | (.error f, s) => (.error f, s)
  | (.ok (.pending yields), s) => s.awaitLayer cast id layer yields
  | (.ok _, s) => (.ok (), s)

def play (cast : Cast) (p : Playback) (s : Stage) : Outcome Unit :=
  (s.emit (.call (.play p))).settle cast .audio fun s => ((), { s with played := s.played ++ [p] })

/-- Asks the registry for the name under a key. -/
def lookup (cast : Cast) (key : String) (s : Stage) : Outcome (Option String) :=
  (s.emit (.call (.lookup key))).settle cast .registry fun s => (cast.names.get? key, s)

def setDialogue (cast : Cast) (r : Record) (s : Stage) : Outcome Unit :=
  (s.emit (.call (.setDialogue r))).settle cast .engineDialogue fun s =>
    ((), { s with dialogue := some r, history := s.history ++ [r] })

def notify (cast : Cast) (r : Record) (s : Stage) : Outcome Unit :=
  (s.emit (.call (.notify r))).settle cast .notifier fun s =>
    ((), { s with notified := s.notified ++ [r] })

def ask (cast : Cast) (s : Stage) : Call → Outcome Unit
  | .addLayer id layer => s.addLayer cast id layer
  | .setDialogue r => s.setDialogue cast r
  | .play p => s.play cast p
  | .lookup key => ((s.lookup cast key).1.map fun _ => (), (s.lookup cast key).2)
  | .notify r => s.notify cast r

end Stage

end Daihon.Label

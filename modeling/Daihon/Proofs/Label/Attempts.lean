import Daihon.Proofs.Label.Steps

/-!
# What calls leave behind

A call that is made on a stage is an attempt, which may fail (`Attempt`), and the attempts say all that can
be seen afterwards but notices (`Shows`): the events, what has been placed and played, what is said, what
has been said and what there were notifications of.  A row of calls shows its attempts
(`Stage.shows_afterAll`), and a step is a row of calls: those of its plan, up to the first that fails
(`runPlan_snd`).
-/

namespace Daihon.Label

/-! ### Attempts -/

/-- A call that has been made, and how it failed, if it did. -/
structure Attempt where
  call : Call
  fault : Option Failure

/-- The calls `cs`, made in order beginning on the stage `s`, each with its failure. -/
def Cast.attempts (cast : Cast) (s : Stage) (cs : List Call) : List Attempt :=
  cs.mapIdx fun i c => ⟨c, cast.faultAfter s (cs.take i) c⟩

namespace Attempt

/-- The layer that has been placed. -/
def layer? : Attempt → Option (LayerId × Layer)
  | ⟨.addLayer id layer, none⟩ => some (id, layer)
  | _ => none

/-- The track that has been played. -/
def playback? : Attempt → Option Playback
  | ⟨.play p, none⟩ => some p
  | _ => none

/-- The record that has been shown. -/
def shown? : Attempt → Option Record
  | ⟨.setDialogue r, none⟩ => some r
  | _ => none

/-- The record that there was a notification of. -/
def notified? : Attempt → Option Record
  | ⟨.notify r, none⟩ => some r
  | _ => none

/-- The report that a layer is in place, if the engine makes such reports. -/
def completion (delivery : Delivery) : Attempt → List Event
  | ⟨.addLayer id _, none⟩ =>
    match delivery with
    | .awaited _ => [.layerDone id]
    | .immediate | .value => []
  | _ => []

/-- The events of an attempt: the call, and behind it the report that its layer is in place. -/
def events (delivery : Delivery) (a : Attempt) : List Event :=
  .call a.call :: a.completion delivery

end Attempt

section Attempts

variable {cast : Cast} {s : Stage}

@[simp] theorem attempts_nil : cast.attempts s [] = [] := rfl

@[simp] theorem attempts_cons (c : Call) (cs : List Call) :
    cast.attempts s (c :: cs) = ⟨c, s.fault? cast c⟩ :: cast.attempts (s.after cast c) cs := by
  unfold Cast.attempts
  rw [List.mapIdx_cons]
  refine congrArg (_ :: ·) (List.mapIdx_eq_mapIdx_iff.mpr fun i hi => ?_)
  rw [List.take_succ_cons, Cast.faultAfter_cons]

theorem attempts_append (as bs : List Call) :
    cast.attempts s (as ++ bs) = cast.attempts s as ++ cast.attempts (s.afterAll cast as) bs := by
  induction as generalizing s with
  | nil => rfl
  | cons a as ih => rw [List.cons_append, attempts_cons, ih, attempts_cons, Stage.afterAll_cons]; rfl

theorem map_call_attempts (cs : List Call) : (cast.attempts s cs).map Attempt.call = cs := by
  induction cs generalizing s with
  | nil => rfl
  | cons c cs ih => rw [attempts_cons, List.map_cons, ih]

/-- A report is no call. -/
theorem filterMap_completion (delivery : Delivery) (a : Attempt) :
    (a.completion delivery).filterMap Event.call? = [] := by
  unfold Attempt.completion
  split
  · cases delivery <;> rfl
  · rfl

/-- The calls among the events of attempts are those that have been attempted. -/
theorem calls_of_events (delivery : Delivery) (as : List Attempt) :
    (as.flatMap (Attempt.events delivery)).filterMap Event.call? = as.map Attempt.call := by
  induction as with
  | nil => rfl
  | cons a as ih =>
    rw [List.flatMap_cons, List.filterMap_append, ih, Attempt.events,
      List.filterMap_cons_some (show Event.call? (.call a.call) = some a.call from rfl),
      filterMap_completion]
    rfl

end Attempts

/-! ### What attempts show -/

/-- On the stage `t` one sees what was to be seen on `s`, and the attempts `as` behind it. -/
structure Shows (delivery : Delivery) (s : Stage) (as : List Attempt) (t : Stage) : Prop where
  events : t.events = s.events ++ as.flatMap (Attempt.events delivery)
  layers : t.layers = s.layers ++ as.filterMap Attempt.layer?
  played : t.played = s.played ++ as.filterMap Attempt.playback?
  history : t.history = s.history ++ as.filterMap Attempt.shown?
  notified : t.notified = s.notified ++ as.filterMap Attempt.notified?
  dialogue : t.dialogue = (as.filterMap Attempt.shown?).getLast?.or s.dialogue

namespace Shows

variable {delivery : Delivery} {s t u : Stage} {as bs : List Attempt}

theorem refl (delivery : Delivery) (s : Stage) : Shows delivery s [] s := by
  constructor <;> simp

theorem trans (h : Shows delivery s as t) (h' : Shows delivery t bs u) :
    Shows delivery s (as ++ bs) u where
  events := by rw [h'.events, h.events, List.flatMap_append, List.append_assoc]
  layers := by rw [h'.layers, h.layers, List.filterMap_append, List.append_assoc]
  played := by rw [h'.played, h.played, List.filterMap_append, List.append_assoc]
  history := by rw [h'.history, h.history, List.filterMap_append, List.append_assoc]
  notified := by rw [h'.notified, h.notified, List.filterMap_append, List.append_assoc]
  dialogue := by
    rw [h'.dialogue, h.dialogue, List.filterMap_append, List.getLast?_append, Option.or_assoc]

theorem noteAll (h : Shows delivery s as t) (ns : List Notice) : Shows delivery s as (t.noteAll ns) :=
  ⟨h.events, h.layers, h.played, h.history, h.notified, h.dialogue⟩

end Shows

namespace Stage

variable (cast : Cast)

theorem shows_after (s : Stage) (c : Call) :
    Shows cast.delivery s [⟨c, s.fault? cast c⟩] (s.after cast c) := by
  cases h : s.fault? cast c with
  | some f =>
    -- a call that fails is seen as an event and leaves nothing else
    rw [after_of_fault cast h]
    cases c <;> constructor <;>
      simp [emit, count, Attempt.events, Attempt.completion, Attempt.layer?, Attempt.playback?,
        Attempt.shown?, Attempt.notified?]
  | none =>
    rw [after_of_none cast h]
    cases c with
    | addLayer id layer =>
      cases hd : cast.delivery <;> constructor <;>
        simp [fulfil, emit, count, Attempt.events, Attempt.completion, Attempt.layer?,
          Attempt.playback?, Attempt.shown?, Attempt.notified?]
    | _ =>
      constructor <;>
        simp [fulfil, emit, count, Attempt.events, Attempt.completion, Attempt.layer?,
          Attempt.playback?, Attempt.shown?, Attempt.notified?]

/-- **A row of calls shows its attempts.** -/
theorem shows_afterAll (s : Stage) (cs : List Call) :
    Shows cast.delivery s (cast.attempts s cs) (s.afterAll cast cs) := by
  induction cs generalizing s with
  | nil => exact Shows.refl cast.delivery s
  | cons c cs ih =>
    rw [attempts_cons, afterAll_cons]
    exact (shows_after cast s c).trans (ih (s.after cast c))

/-! ### Calls up to the first that fails -/

/-- Of the calls `cs`, those that are made when a failure ends the row. -/
def asked (s : Stage) : List Call → List Call
  | [] => []
  | c :: cs =>
    match s.fault? cast c with
    | some _ => [c]
    | none => c :: asked (s.after cast c) cs

theorem askAll_snd (s : Stage) (cs : List Call) :
    (s.askAll cast cs).2 = s.afterAll cast (s.asked cast cs) := by
  induction cs generalizing s with
  | nil => rfl
  | cons c cs ih =>
    unfold askAll asked
    cases s.fault? cast c with
    | some f => rfl
    | none => exact ih (s.after cast c)

theorem asked_singleton (s : Stage) (c : Call) : s.asked cast [c] = [c] := by
  unfold asked
  cases s.fault? cast c <;> rfl

end Stage

/-- **A step is a row of calls**: those of its plan, up to the first that fails. -/
theorem runPlan_snd (settings : Settings) (cast : Cast) (plan : Plan) (s : Stage) :
    (runPlan settings cast plan s).2 =
      (s.afterAll cast (s.asked cast (plan.calls settings cast.names))).noteAll
        (plan.notices (plan.degradation settings cast s [])) := by
  by_cases hk : plan.kind.isSpeech
  · rw [runPlan_of_isSpeech s hk, Stage.askAll_snd, degradation_of_isSpeech hk, notices_of_isSpeech hk]
    simp [Stage.noteAll]
  · obtain ⟨c, hc⟩ := exists_call settings cast.names hk
    rw [runPlan_of_call s hk hc, hc, Stage.asked_singleton, Stage.afterAll_cons, Stage.afterAll_nil]

end Daihon.Label

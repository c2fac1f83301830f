import Daihon.Proofs.Label.Attempts
import Daihon.Proofs.Label.Stepping

/-!
# How layers are delivered

An engine may place a layer at once, with or without an answer, or when it is waited for, after it has given
up control any number of times.  Nothing of this shows but the reports that layers are in place
(`delivery_never_shows`): without them every way of delivery is that of an engine that places layers at
once (`withoutDone_perform`).  The steps of a label do not overlap: what is seen of them is one row of
events for each, one behind the other, and a layer that is placed is reported in place right after it was
asked for (`leave_adds`).
-/

namespace Daihon.Label

/-- The cast with an engine that delivers layers in the way `d`. -/
def Cast.delivering (cast : Cast) (d : Delivery) : Cast :=
  { cast with delivery := d }

/-! ### All but the reports -/

/-- Whether an event is a call. -/
def Event.isCall : Event → Bool
  | .call _ => true
  | .layerDone _ => false

/-- The stage without the reports that layers are in place. -/
def Stage.withoutDone (s : Stage) : Stage :=
  { s with events := s.events.filter Event.isCall }

/-- An outcome without the reports that layers are in place. -/
def withoutDone {α : Type} (o : Outcome α) : Outcome α :=
  (o.1, o.2.withoutDone)

section WithoutDone

variable (cast : Cast) (d : Delivery) (s : Stage)

theorem emit_call_withoutDone (c : Call) :
    s.withoutDone.emit (.call c) = (s.emit (.call c)).withoutDone := by
  unfold Stage.withoutDone Stage.emit
  rw [List.filter_append]
  rfl

theorem emit_layerDone_withoutDone (id : LayerId) :
    (s.emit (.layerDone id)).withoutDone = s.withoutDone := by
  unfold Stage.withoutDone Stage.emit
  rw [List.filter_append]
  exact congrArg (fun es => { s with events := es }) (List.append_nil _)

theorem fulfil_withoutDone (c : Call) :
    s.withoutDone.fulfil .immediate c = (s.fulfil d c).withoutDone := by
  cases c with
  | addLayer id layer =>
    cases d with
    | awaited yields =>
      exact (emit_layerDone_withoutDone { s with layers := s.layers ++ [(id, layer)] } id).symm
    | immediate | value => rfl
  | _ => rfl

theorem after_withoutDone (c : Call) :
    s.withoutDone.after (cast.delivering .immediate) c = (s.after (cast.delivering d) c).withoutDone := by
  have hfault : s.withoutDone.fault? (cast.delivering .immediate) c =
    s.fault? (cast.delivering d) c := rfl
  unfold Stage.after
  rw [hfault, emit_call_withoutDone]
  cases s.fault? (cast.delivering d) c with
  | some f => rfl
  | none => exact fulfil_withoutDone d ((s.emit (.call c)).count c.collaborator) c

theorem askAll_withoutDone (cs : List Call) :
    s.withoutDone.askAll (cast.delivering .immediate) cs =
      withoutDone (s.askAll (cast.delivering d) cs) := by
  induction cs generalizing s with
  | nil => rfl
  | cons c cs ih =>
    have hfault : s.withoutDone.fault? (cast.delivering .immediate) c =
      s.fault? (cast.delivering d) c := rfl
    rw [Stage.askAll, Stage.askAll, hfault, after_withoutDone]
    cases s.fault? (cast.delivering d) c with
    | some f => rfl
    | none => exact ih (s.after (cast.delivering d) c)

/-- **A step** without the reports is a step of an engine that places layers at once. -/
theorem runPlan_withoutDone (settings : Settings) (plan : Plan) :
    runPlan settings (cast.delivering .immediate) plan s.withoutDone =
      withoutDone (runPlan settings (cast.delivering d) plan s) := by
  by_cases hk : plan.kind.isSpeech
  · rw [runPlan_of_isSpeech _ hk, runPlan_of_isSpeech _ hk,
      show (cast.delivering .immediate).names = (cast.delivering d).names from rfl, askAll_withoutDone]
    rfl
  · obtain ⟨c, hc⟩ := exists_call settings cast.names hk
    -- how the step is degraded depends on the calls that were made, and on no report
    have hdegradation : plan.degradation settings (cast.delivering .immediate) s.withoutDone [] =
      plan.degradation settings (cast.delivering d) s [] := rfl
    have hcalls (d : Delivery) : plan.calls settings (cast.delivering d).names = [c] := hc
    rw [runPlan_of_call _ hk (hcalls .immediate), runPlan_of_call _ hk (hcalls d), hdegradation,
      after_withoutDone]
    rfl

theorem runPlans_withoutDone (settings : Settings) (plans : List Plan) :
    Compiled.runPlans settings (cast.delivering .immediate) plans s.withoutDone =
      withoutDone (Compiled.runPlans settings (cast.delivering d) plans s) := by
  induction plans generalizing s with
  | nil => rfl
  | cons plan plans ih =>
    have hplan := runPlan_withoutDone cast d s settings plan
    rcases h : runPlan settings (cast.delivering d) plan s with ⟨f | r, t⟩ <;> rw [h] at hplan
    · rw [runPlans_cons_of_error plans h, runPlans_cons_of_error plans hplan]
      rfl
    · rw [runPlans_cons_of_ok plans h, runPlans_cons_of_ok plans hplan]
      exact congrArg (fun o : Outcome (List StepResult) => (o.1.map (r :: ·), o.2)) (ih t)

theorem act_withoutDone (l : Compiled) (a : Action) :
    l.act (cast.delivering .immediate) a s.withoutDone = withoutDone (l.act (cast.delivering d) a s) := by
  cases a with
  | run =>
    simp only [Compiled.act, run_eq, runPlans_withoutDone cast d]
    rcases Compiled.runPlans l.settings (cast.delivering d) l.plans s with ⟨f | rs, t⟩ <;> rfl
  | step i =>
    cases hi : l.plan? i with
    | none => rw [act_step_of_none _ _ hi, act_step_of_none _ _ hi]; rfl
    | some plan => rw [act_step _ _ hi, act_step _ _ hi, runPlans_withoutDone]

/-- **Actions** without the reports are those with an engine that places layers at once. -/
theorem withoutDone_perform (l : Compiled) (as : List Action) :
    (l.perform (cast.delivering d) as s).map withoutDone =
      l.perform (cast.delivering .immediate) as s.withoutDone := by
  induction as generalizing s with
  | nil => rfl
  | cons a as ih =>
    rw [Compiled.perform, List.map_cons, ih, Compiled.perform, act_withoutDone cast d]
    rfl

end WithoutDone

/-! ### The events of steps -/

/-- The events that each of a row of steps adds, up to the first step that fails. -/
def stepEvents (settings : Settings) (cast : Cast) : List Plan → Stage → List (List Event)
  | [], _ => []
  | plan :: plans, s =>
    match runPlan settings cast plan s with
    | (.error _, t) => [t.events.drop s.events.length]
    | (.ok _, t) => t.events.drop s.events.length :: stepEvents settings cast plans t

/-- The events that each step of a row of actions adds. -/
def Compiled.stepEvents (l : Compiled) (cast : Cast) : List Action → Stage → List (List Event)
  | [], _ => []
  | a :: as, s =>
    Label.stepEvents l.settings cast (l.planned a) s ++ l.stepEvents cast as (l.act cast a s).2

/-- In the events of steps of which the first begins on the stage `s`, a layer that is placed is reported in
place by the event behind the one that asks for it, in the same step; one that is not placed is not. -/
def DoneInStep (cast : Cast) (s : Stage) (steps : List (List Event)) : Prop :=
  ∀ earlier step later before id layer after, steps = earlier ++ step :: later →
    step = before ++ .call (.addLayer id layer) :: after →
      (cast.faultAfter s ((earlier.flatten ++ before).filterMap Event.call?) (.addLayer id layer) = none ↔
        ∃ rest, after = .layerDone id :: rest)

/-- Steps with the events `steps` lead from the stage `s` to `t`. -/
structure Adds (cast : Cast) (s : Stage) (steps : List (List Event)) (t : Stage) : Prop where
  events : t.events = s.events ++ steps.flatten
  done : DoneInStep cast s steps
  /-- Failures are counted on from the calls of the steps. -/
  faults : ∀ cs c, cast.faultAfter s (steps.flatten.filterMap Event.call? ++ cs) c =
    cast.faultAfter t cs c

namespace Adds

variable {cast : Cast} {s t u : Stage} {steps steps' : List (List Event)}

theorem refl (cast : Cast) (s : Stage) : Adds cast s [] s where
  events := (List.append_nil _).symm
  done := fun earlier _ _ _ _ _ _ h => by simp at h
  faults := fun _ _ => rfl

theorem noteAll (h : Adds cast s steps t) (ns : List Notice) : Adds cast s steps (t.noteAll ns) :=
  ⟨h.events, h.done, h.faults⟩

theorem trans (h : Adds cast s steps t) (h' : Adds cast t steps' u) :
    Adds cast s (steps ++ steps') u where
  events := by rw [h'.events, h.events, List.flatten_append, List.append_assoc]
  done := by
    intro earlier step later before id layer after heq hstep
    rcases List.append_eq_append_iff.mp heq with ⟨ls, rfl, hsteps'⟩ | ⟨ls, hsteps, hlater⟩
    · -- a step of the second row: what was called in the first comes before
      rw [List.flatten_append, List.append_assoc, List.filterMap_append, h.faults]
      exact h'.done ls step later before id layer after hsteps' hstep
    · cases ls with
      | nil =>
        rw [List.append_nil] at hsteps
        have hfaults := h.faults (before.filterMap Event.call?) (.addLayer id layer)
        rw [hsteps] at hfaults
        rw [List.filterMap_append, hfaults]
        exact h'.done [] step later before id layer after hlater.symm hstep
      | cons step' ls =>
        obtain ⟨rfl, -⟩ := List.cons.inj hlater
        exact h.done earlier step ls before id layer after hsteps hstep
  faults := by
    intro cs c
    rw [List.flatten_append, List.filterMap_append, List.append_assoc, h.faults, h'.faults]

end Adds

/-! ### Reports right after their calls -/

/-- Behind the call of an attempt there are no calls. -/
theorem append_eq_append_call {delivery : Delivery} {a : Attempt} {es before after : List Event} {c : Call}
    (h : a.completion delivery ++ es = before ++ .call c :: after) :
    ∃ rest, before = a.completion delivery ++ rest ∧ es = rest ++ .call c :: after := by
  rcases List.append_eq_append_iff.mp h with ⟨rest, rfl, hes⟩ | ⟨rest, hcompletion, hes⟩
  · exact ⟨rest, rfl, hes⟩
  · cases rest with
    | nil => exact ⟨[], by rw [hcompletion, List.append_nil, List.append_nil], hes.symm⟩
    | cons e rest =>
      obtain ⟨rfl, -⟩ := List.cons.inj hes
      have hmem : Event.call c ∈ a.completion delivery := by simp [hcompletion]
      unfold Attempt.completion at hmem
      split at hmem
      · cases delivery <;> simp at hmem
      · simp at hmem

theorem flatMap_events_ne_layerDone (delivery : Delivery) (as : List Attempt) (id : LayerId)
    (rest : List Event) : as.flatMap (Attempt.events delivery) ≠ .layerDone id :: rest := by
  intro h
  cases as with
  | nil => simp at h
  | cons a as =>
    rw [List.flatMap_cons, Attempt.events, List.cons_append] at h
    cases (List.cons.inj h).1

theorem layerDone_of_attempts {cast : Cast} {s : Stage} {yields : Nat} {cs : List Call}
    {before after : List Event} {id : LayerId} {layer : Layer}
    (h : (cast.attempts s cs).flatMap (Attempt.events (.awaited yields)) =
      before ++ .call (.addLayer id layer) :: after) :
    cast.faultAfter s (before.filterMap Event.call?) (.addLayer id layer) = none ↔
      ∃ rest, after = .layerDone id :: rest := by
  induction cs generalizing s before with
  | nil => simp at h
  | cons c cs ih =>
    rw [attempts_cons, List.flatMap_cons, Attempt.events, List.cons_append] at h
    cases before with
    | nil =>
      obtain ⟨hc, hafter⟩ := List.cons.inj h
      obtain rfl := Event.call.inj hc
      rw [List.filterMap_nil, Cast.faultAfter_nil]
      cases hf : s.fault? cast (.addLayer id layer) with
      | none =>
        rw [hf] at hafter
        exact ⟨fun _ => ⟨_, hafter.symm⟩, fun _ => rfl⟩
      | some f =>
        rw [hf] at hafter
        constructor
        · intro hnone
          cases hnone
        · rintro ⟨rest, rfl⟩
          exact absurd hafter (flatMap_events_ne_layerDone _ _ id rest)
    | cons e before =>
      obtain ⟨rfl, hbehind⟩ := List.cons.inj h
      obtain ⟨rest, rfl, hrest⟩ := append_eq_append_call hbehind
      have hcalls : (Event.call c :: (Attempt.completion (.awaited yields) ⟨c, s.fault? cast c⟩ ++
          rest)).filterMap Event.call? = c :: rest.filterMap Event.call? := by
        rw [List.filterMap_cons_some (show Event.call? (.call c) = some c from rfl),
          List.filterMap_append, filterMap_completion, List.nil_append]
      rw [hcalls, Cast.faultAfter_cons]
      exact ih hrest

/-! ### Steps one after another -/

section Steps

variable {cast : Cast} {yields : Nat} (hcast : cast.delivery = .awaited yields)
include hcast

/-- **A step** of an engine that is waited for adds one row of events, in which layers are reported in place
right after they were asked for. -/
theorem runPlan_adds (settings : Settings) (plan : Plan) (s : Stage) :
    Adds cast s [(runPlan settings cast plan s).2.events.drop s.events.length]
      (runPlan settings cast plan s).2 := by
  rw [runPlan_snd]
  generalize s.asked cast (plan.calls settings cast.names) = cs
  have hevents : ((s.afterAll cast cs).noteAll (plan.notices (plan.degradation settings cast s []))).events =
      s.events ++ (cast.attempts s cs).flatMap (Attempt.events (.awaited yields)) :=
    hcast ▸ (Stage.shows_afterAll cast s cs).events
  rw [hevents, List.drop_left]
  refine ⟨?_, ?_, ?_⟩
  · rw [hevents, List.flatten_singleton]
  · intro earlier step later before id layer after heq hstep
    cases earlier with
    | nil =>
      obtain ⟨rfl, -⟩ := List.cons.inj heq
      exact layerDone_of_attempts hstep
    | cons step' earlier => simp at heq
  · intro cs' c
    rw [List.flatten_singleton, calls_of_events, map_call_attempts, Cast.faultAfter_append]
    rfl

theorem runPlans_adds (settings : Settings) (plans : List Plan) (s : Stage) :
    Adds cast s (stepEvents settings cast plans s) (Compiled.runPlans settings cast plans s).2 := by
  induction plans generalizing s with
  | nil => exact .refl cast s
  | cons plan plans ih =>
    have hplan := runPlan_adds hcast settings plan s
    unfold stepEvents
    rcases h : runPlan settings cast plan s with ⟨f | r, t⟩ <;> rw [h] at hplan
    · rw [runPlans_cons_of_error plans h]
      exact hplan
    · rw [runPlans_cons_of_ok plans h]
      exact hplan.trans (ih t)

/-- **Actions** add one row of events for each of their steps. -/
theorem leave_adds (l : Compiled) (as : List Action) (s : Stage) :
    Adds cast s (l.stepEvents cast as s) (l.leave cast as s) := by
  induction as generalizing s with
  | nil => exact .refl cast s
  | cons a as ih =>
    obtain ⟨ns, ha⟩ := act_snd l cast a s
    have hact : Adds cast s (stepEvents l.settings cast (l.planned a) s) (l.act cast a s).2 := by
      rw [ha]
      exact (runPlans_adds hcast l.settings (l.planned a) s).noteAll ns
    exact hact.trans (ih (l.act cast a s).2)

end Steps

/-! ### Main statement -/

/-- **The way of delivery never shows.**  With any two ways in which an engine delivers layers the same
actions have the same outcomes, and leave the same to be seen, but for the reports that layers are in
place.  With an engine that is waited for, all that is seen are the rows of events that the steps add, one
behind the other, and in the row of the step that asks for a layer the layer is reported in place right
after that, just if it could be placed. -/
theorem delivery_never_shows (l : Compiled) (cast : Cast) (as : List Action) (s : Stage) :
    (∀ d d' : Delivery,
        (l.perform (cast.delivering d) as s).map withoutDone =
          (l.perform (cast.delivering d') as s).map withoutDone) ∧
      ∀ yields : Nat,
        let awaited := cast.delivering (.awaited yields)
        (l.leave awaited as s).events = s.events ++ (l.stepEvents awaited as s).flatten ∧
          DoneInStep awaited s (l.stepEvents awaited as s) := by
  constructor
  · intro d d'
    rw [withoutDone_perform, withoutDone_perform]
  · intro yields
    have hadds : Adds (cast.delivering (.awaited yields)) s _ _ := leave_adds rfl l as s
    exact ⟨hadds.events, hadds.done⟩

/-- Of two layers the first is placed and reported in its own step, and the second is not placed. -/
example :
    (Compiled.ofText "test" "【背景】海\n【立ち絵】立\n【SE】" .default).stepEvents
        { names := []
          delivery := .awaited 2
          fault := fun who n =>
            if who = .engineLayers ∧ n = 1 then some (.raised "OSError" "gone") else none }
        [.run] .empty =
      [[.call (.addLayer .background (backgroundLayer .default "海")), .layerDone .background],
        [.call (.addLayer .character (portraitLayer .default "立"))],
        [.call (.play (sePlayback .default))]] :=
  rfl

end Daihon.Label

import Daihon.Proofs.Label.Attempts
import Mathlib.Data.List.Basic

/-!
# Runs without failures

With collaborators that never fail a run realises its plans and does nothing else
(`run_realises_plans`): what is placed, played, said and looked up are four lists, each of what the plans
ask for, in their order.
-/

namespace Daihon.Label

/-- No call of any collaborator fails. -/
def Cast.NeverFails (cast : Cast) : Prop :=
  ∀ who n, cast.fault who n = none

/-! ### What plans ask for -/

/-- The layer that a plan asks for: a background is centred on the stage and as large as it, and a portrait
has its own size and stands on the baseline in the middle. -/
def Plan.layer? (settings : Settings) (plan : Plan) : Option (LayerId × Layer) :=
  match plan.kind with
  | .background =>
    some (.background,
      { x := settings.stageWidth.value / 2
        y := settings.stageHeight.value / 2
        width := settings.stageWidth.value
        height := settings.stageHeight.value
        anchorX := 0.5
        anchorY := 0.5
        source := plan.content })
  | .character =>
    some (.character,
      { x := settings.stageWidth.value / 2
        y := settings.portraitBaseline
        width := settings.portraitWidth.value
        height := settings.portraitHeight.value
        anchorX := 0.5
        anchorY := 1.0
        source := plan.content })
  | .bgm | .se | .dialogue | .monologue => none

/-- The track that a plan asks for. -/
def Plan.playback? (settings : Settings) (plan : Plan) : Option Playback :=
  match plan.kind with
  | .bgm =>
    some { track := settings.bgmTrack, loop := settings.bgmLoop, volume := settings.bgmVolume.value }
  | .se => some { track := settings.seTrack, loop := false, volume := settings.seVolume.value }
  | .background | .character | .dialogue | .monologue => none

/-- The record of a plan of speech. -/
def Plan.record? (settings : Settings) (names : Table String) (plan : Plan) : Option Record :=
  if plan.kind.isSpeech then
    some
      { character := shownName settings names plan.character
        text := plan.content
        isMonologue := plan.kind = .monologue }
  else none

/-- The key that is looked up for a plan of speech: that of its speaker, if the settings have one. -/
def Plan.key? (settings : Settings) (plan : Plan) : Option String :=
  if plan.kind.isSpeech then Table.get? settings.characterKeys plan.character else none

/-- The key that a call looks up. -/
def Call.key? : Call → Option String
  | .lookup key => some key
  | .addLayer .. | .play _ | .setDialogue _ | .notify _ => none

/-! ### What the calls of plans ask for -/

section Calls

variable {settings : Settings} {names : Table String}

/-- What is picked from the calls of plans is what is picked from the plans, if that holds of each plan. -/
theorem filterMap_callsOf {α : Type} {pick : Call → Option α} {pick' : Plan → Option α}
    (h : ∀ plan : Plan, (plan.calls settings names).filterMap pick = (pick' plan).toList)
    (plans : List Plan) : (callsOf settings names plans).filterMap pick = plans.filterMap pick' := by
  rw [callsOf, List.filterMap_flatMap, List.filterMap_eq_flatMap_toList]
  exact List.flatMap_congr fun plan _ => h plan

theorem filterMap_lookupCalls_of_none {α : Type} {pick : Call → Option α}
    (h : ∀ key, pick (.lookup key) = none) (name : String) :
    (lookupCalls settings name).filterMap pick = [] := by
  unfold lookupCalls
  cases Table.get? settings.characterKeys name <;> simp [h]

/-- From the calls of a plan, none of them failed, one picks the layer and the track that the plan asks for,
and its record twice, shown and notified of. -/
theorem picked_of_calls (plan : Plan) :
    (plan.calls settings names).filterMap (fun c => Attempt.layer? ⟨c, none⟩) =
        (plan.layer? settings).toList ∧
      (plan.calls settings names).filterMap (fun c => Attempt.playback? ⟨c, none⟩) =
        (plan.playback? settings).toList ∧
      (plan.calls settings names).filterMap (fun c => Attempt.shown? ⟨c, none⟩) =
        (plan.record? settings names).toList ∧
      (plan.calls settings names).filterMap (fun c => Attempt.notified? ⟨c, none⟩) =
        (plan.record? settings names).toList := by
  unfold Plan.calls Plan.layer? Plan.playback? Plan.record? Plan.record
  cases plan.kind with
  | dialogue | monologue =>
    -- of speech, the look-up is passed over by all four
    refine ⟨?_, ?_, ?_, ?_⟩ <;>
      · rw [List.filterMap_append, filterMap_lookupCalls_of_none fun _ => rfl]
        rfl
  | _ => exact ⟨rfl, rfl, rfl, rfl⟩

theorem keys_of_calls (plan : Plan) :
    (plan.calls settings names).filterMap Call.key? = (plan.key? settings).toList := by
  have hlookup (name : String) :
      (lookupCalls settings name).filterMap Call.key? = (Table.get? settings.characterKeys name).toList := by
    unfold lookupCalls
    cases Table.get? settings.characterKeys name <;> rfl
  unfold Plan.calls Plan.key?
  cases plan.kind with
  | dialogue | monologue =>
    rw [List.filterMap_append, hlookup]
    exact List.append_nil _
  | _ => rfl

end Calls

/-! ### Casts that never fail -/

section NeverFails

variable {cast : Cast}

theorem Cast.NeverFails.faultAfter (h : cast.NeverFails) (s : Stage) (before : List Call) (c : Call) :
    cast.faultAfter s before c = none :=
  h _ _

theorem Cast.NeverFails.spares (h : cast.NeverFails) (s : Stage) (cs : List Call) : cast.Spares s cs := by
  intro before c after f _ hf
  rw [h.faultAfter] at hf
  cases hf

theorem Cast.NeverFails.attempts_eq (h : cast.NeverFails) (s : Stage) (cs : List Call) :
    cast.attempts s cs = cs.map (⟨·, none⟩) := by
  induction cs generalizing s with
  | nil => rfl
  | cons c cs ih => rw [attempts_cons, ih, List.map_cons, Stage.fault?, h]

theorem Cast.NeverFails.resultsOf_eq (h : cast.NeverFails) (settings : Settings) (s : Stage)
    (plans : List Plan) :
    resultsOf settings cast s plans = plans.map fun plan => ⟨plan.index, plan.kind, none⟩ := by
  have hdegradation (s : Stage) (plan : Plan) : plan.degradation settings cast s [] = none := by
    unfold Plan.degradation
    simp [h.faultAfter]
  unfold resultsOf
  induction plans generalizing s with
  | nil => rfl
  | cons plan plans ih => rw [degradations_cons, List.map_cons, List.map_cons, ih, hdegradation]; rfl

/-- A run without failures shows the calls of its plans, none of them failed. -/
theorem run_of_neverFails (h : cast.NeverFails) (l : Compiled) (s : Stage) :
    ∃ s' : Stage,
      l.run cast s = (.ok (l.plans.map fun plan => ⟨plan.index, plan.kind, none⟩), s') ∧
        s'.made = s.made ++ callsOf l.settings cast.names l.plans ∧
        Shows cast.delivery s ((callsOf l.settings cast.names l.plans).map (⟨·, none⟩)) s' := by
  have hsteps : Compiled.runPlans l.settings cast l.plans s =
      (.ok (resultsOf l.settings cast s l.plans), stageAfter l.settings cast s l.plans) :=
    runPlans_of_spares (h.spares s _)
  rw [h.resultsOf_eq] at hsteps
  refine ⟨_, run_of_ok hsteps, made_stageAfter s l.plans, ?_⟩
  -- neither the notices of the steps nor the closing one change what the calls show
  have hshows := Stage.shows_afterAll cast s (callsOf l.settings cast.names l.plans)
  rw [h.attempts_eq] at hshows
  exact (hshows.noteAll (noticesOf l.settings cast s l.plans)).noteAll [_]

end NeverFails

/-! ### Main statement -/

/-- **A run without failures realises its plans.**  Compiling the script calls nobody.  The run then makes
the calls of the plans in their order, and every step is carried out: the layers and the tracks are those
of the directives, what is said and notified of are the records of speech, of which the last is shown, and
a name is looked up once for each step of speech whose speaker has a key. -/
theorem run_realises_plans (id text : String) (settings : Settings) (cast : Cast) (s : Stage)
    (h : cast.NeverFails) :
    ∃ (l : Compiled) (t s' : Stage),
      create cast id (.text text) settings s = (.ok l, t) ∧ t.events = s.events ∧ t.calls = s.calls ∧
        l.run cast t =
          (.ok ((plansOf text).map fun plan => ⟨plan.index, plan.kind, none⟩), s') ∧
        s'.made = s.made ++ callsOf settings cast.names (plansOf text) ∧
        s'.layers = s.layers ++ (plansOf text).filterMap (Plan.layer? settings) ∧
        s'.played = s.played ++ (plansOf text).filterMap (Plan.playback? settings) ∧
        s'.history = s.history ++ (plansOf text).filterMap (Plan.record? settings cast.names) ∧
        s'.notified = s.notified ++ (plansOf text).filterMap (Plan.record? settings cast.names) ∧
        s'.dialogue =
          ((plansOf text).filterMap (Plan.record? settings cast.names)).getLast?.or s.dialogue ∧
        s'.made.filterMap Call.key? =
          s.made.filterMap Call.key? ++ (plansOf text).filterMap (Plan.key? settings) := by
  let calls := callsOf settings cast.names (plansOf text)
  obtain ⟨s', hrun, hmade, hshows⟩ :=
    run_of_neverFails h (.ofText id text settings) (s.note (.labelCompiled id (plansOf text).length))
  -- what is picked from attempts that did not fail is picked from their calls
  have hpicked {α : Type} {pick : Attempt → Option α} {pick' : Plan → Option α}
      (hplan : ∀ plan : Plan, (plan.calls settings cast.names).filterMap (fun c => pick ⟨c, none⟩) =
        (pick' plan).toList) :
      (calls.map (⟨·, none⟩)).filterMap pick = (plansOf text).filterMap pick' := by
    rw [List.filterMap_map]
    exact filterMap_callsOf hplan (plansOf text)
  refine ⟨_, _, s', create_text cast id text settings s, rfl, rfl, hrun, hmade, ?_, ?_, ?_, ?_, ?_, ?_⟩
  · rw [← hpicked fun plan => (picked_of_calls plan).1]
    exact hshows.layers
  · rw [← hpicked fun plan => (picked_of_calls plan).2.1]
    exact hshows.played
  · rw [← hpicked fun plan => (picked_of_calls plan).2.2.1]
    exact hshows.history
  · rw [← hpicked fun plan => (picked_of_calls plan).2.2.2]
    exact hshows.notified
  · rw [← hpicked fun plan => (picked_of_calls plan).2.2.1]
    exact hshows.dialogue
  · rw [hmade, List.filterMap_append]
    exact congrArg _ (filterMap_callsOf keys_of_calls (plansOf text))

/-- A cast that never fails and knows one name. -/
def calmCast : Cast where
  names := [("protagonist", "ゆう"), ("nanatau", "")]
  delivery := .awaited 1
  fault _ _ := none

/-- Of the three speakers one has a name in the registry, one an empty name there, and one no key. -/
theorem run_realises_plans_calmCast :
    calmCast.NeverFails ∧
      ∃ (l : Compiled) (t s' : Stage),
        create calmCast "test" (.text "主人公\n【SE】\n【背景】海\nななたう\n【立ち絵】立\n先生\n「やあ」") .default
            .empty = (.ok l, t) ∧
          (l.run calmCast t).2 = s' ∧
          s'.layers =
            [(.background, ⟨640, 360, 1280, 720, 0.5, 0.5, "海"⟩),
              (.character, ⟨640, 650, 300, 400, 0.5, 1.0, "立"⟩)] ∧
          s'.history = [⟨"ゆう", "", false⟩, ⟨"ななたう", "", false⟩, ⟨"先生", "", false⟩, ⟨"先生", "やあ", false⟩] ∧
          s'.made.filterMap Call.key? = ["protagonist", "nanatau"] := by
  have h : calmCast.NeverFails := fun _ _ => rfl
  obtain ⟨l, t, s', hcreate, -, -, hrun, -, hlayers, -, hhistory, -, -, hkeys⟩ :=
    run_realises_plans "test" "主人公\n【SE】\n【背景】海\nななたう\n【立ち絵】立\n先生\n「やあ」" .default calmCast
      .empty h
  exact ⟨h, l, t, s', hcreate, congrArg Prod.snd hrun, hlayers, hhistory, hkeys⟩

end Daihon.Label

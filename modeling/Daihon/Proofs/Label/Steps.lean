import Daihon.Proofs.Label.Calls

/-!
# Steps as rows of calls

A plan alone decides the calls of its step (`Plan.calls`): a directive makes one, and speech asks the
registry if it must, shows a record and notifies of it.  A step that no call ends makes all its calls and
gives the result of its plan (`runPlan_of_spares`); a step that a call ends stops with it
(`runPlan_of_fault`).  Steps one after another make the calls of their plans one after another
(`runPlans_of_spares`).
-/

namespace Daihon.Label

/-! ### The calls of a plan -/

/-- The name to show for a character: the one registered under its key, if there is a key and there is
something to show, and else the name itself. -/
def shownName (settings : Settings) (names : Table String) (name : String) : String :=
  match Table.get? settings.characterKeys name with
  | none => name
  | some key => ((names.get? key).filter fun shown => !shown.isEmpty).getD name

/-- The record that a step of speech shows. -/
def Plan.record (settings : Settings) (names : Table String) (plan : Plan) : Record :=
  ⟨shownName settings names plan.character, plan.content, plan.kind = .monologue⟩

/-- The call that looks up a character, if the settings have a key for it. -/
def lookupCalls (settings : Settings) (name : String) : List Call :=
  ((Table.get? settings.characterKeys name).map Call.lookup).toList

/-- The calls of a step, in order, when none of them ends it. -/
def Plan.calls (settings : Settings) (names : Table String) (plan : Plan) : List Call :=
  match plan.kind with
  | .background => [.addLayer .background (backgroundLayer settings plan.content)]
  | .character => [.addLayer .character (portraitLayer settings plan.content)]
  | .bgm => [.play (bgmPlayback settings)]
  | .se => [.play (sePlayback settings)]
  | .dialogue | .monologue =>
    lookupCalls settings plan.character ++
      [.setDialogue (plan.record settings names), .notify (plan.record settings names)]

/-- The calls of the steps of a row of plans. -/
def callsOf (settings : Settings) (names : Table String) (plans : List Plan) : List Call :=
  plans.flatMap (Plan.calls settings names)

/-- What a failure of a directive degrades the step by, if it can be handled. -/
def degrading? (f : Failure) : Option Failure :=
  if f.isError then some f.leaving else none

/-- How a step is degraded that comes after the calls `before`: a directive by the failure of its call, if
it can be handled, and speech not at all. -/
def Plan.degradation (settings : Settings) (cast : Cast) (s : Stage) (before : List Call) (plan : Plan) :
    Option Failure :=
  if plan.kind.isSpeech then none
  else (plan.calls settings cast.names).findSome? fun c => (cast.faultAfter s before c).bind degrading?

/-- The plans, each with the failure that degrades its step, when the first begins on the stage `s` and
none of them is ended. -/
def degradations (settings : Settings) (cast : Cast) (s : Stage) (plans : List Plan) :
    List (Plan × Option Failure) :=
  plans.mapIdx fun i plan =>
    (plan, plan.degradation settings cast s (callsOf settings cast.names (plans.take i)))

/-! ### Results and notices of a plan -/

/-- The result of a step that is degraded by `fault`. -/
def Plan.result (plan : Plan) (fault : Option Failure) : StepResult :=
  ⟨plan.index, plan.kind, fault.map reasonOf⟩

/-- What a step that carries out a directive answers whose call fails with `fault`. -/
def Plan.outcome (plan : Plan) : Option Failure → Except Failure StepResult
  | none => .ok (plan.result none)
  | some f => if f.isError then .ok (plan.result (some f.leaving)) else .error f.leaving

/-- The cue of a step that carries out a directive. -/
def StepKind.cue? : StepKind → Option Cue
  | .background => some .background
  | .character => some .character
  | .bgm => some .bgm
  | .se => some .se
  | .dialogue | .monologue => none

/-- The notices of a step that is degraded by `fault`. -/
def Plan.notices (plan : Plan) (fault : Option Failure) : List Notice :=
  (plan.kind.cue?.map fun cue => .cue cue plan.content).toList ++
    (fault.map fun f => .stepFailed plan.index plan.kind.name plan.content f.text).toList

/-- The results of a row of steps that no call ends. -/
def resultsOf (settings : Settings) (cast : Cast) (s : Stage) (plans : List Plan) : List StepResult :=
  (degradations settings cast s plans).map fun d => d.1.result d.2

/-- The notices of a row of steps that no call ends. -/
def noticesOf (settings : Settings) (cast : Cast) (s : Stage) (plans : List Plan) : List Notice :=
  (degradations settings cast s plans).flatMap fun d => d.1.notices d.2

/-- The stage after a row of steps that no call ends. -/
def stageAfter (settings : Settings) (cast : Cast) (s : Stage) (plans : List Plan) : Stage :=
  (s.afterAll cast (callsOf settings cast.names plans)).noteAll (noticesOf settings cast s plans)

theorem degrading?_eq_some {f g : Failure} : degrading? f = some g ↔ f.isError ∧ g = f.leaving := by
  unfold degrading?
  by_cases hf : f.isError
  · rw [if_pos hf, Option.some_inj, eq_comm (a := f.leaving)]
    simp [hf]
  · simp [hf]

section Plan

variable {settings : Settings} {names : Table String} {plan : Plan}

theorem calls_of_isSpeech (h : plan.kind.isSpeech) :
    plan.calls settings names =
      lookupCalls settings plan.character ++
        [.setDialogue (plan.record settings names), .notify (plan.record settings names)] := by
  unfold Plan.calls
  cases hk : plan.kind <;> simp_all [StepKind.isSpeech]

theorem isSpeech_of_mem_lookupCalls {name : String} {c : Call} (h : c ∈ lookupCalls settings name) :
    c.isSpeech := by
  obtain ⟨key, -, rfl⟩ := Option.map_eq_some_iff.mp (Option.mem_toList.mp h)
  rfl

/-- The calls of speech are those of steps of speech. -/
theorem isSpeech_of_mem_calls {c : Call} (hc : c ∈ plan.calls settings names) :
    c.isSpeech = plan.kind.isSpeech := by
  unfold Plan.calls at hc
  cases hk : plan.kind with
  | background | character | bgm | se =>
    rw [hk] at hc
    obtain rfl := List.mem_singleton.mp hc
    rfl
  | dialogue | monologue =>
    rw [hk] at hc
    rcases List.mem_append.mp hc with hc | hc
    · exact isSpeech_of_mem_lookupCalls hc
    · simp only [List.mem_cons, List.not_mem_nil, or_false] at hc
      rcases hc with rfl | rfl <;> rfl

theorem degradation_of_isSpeech {cast : Cast} {s : Stage} {before : List Call} (h : plan.kind.isSpeech) :
    plan.degradation settings cast s before = none :=
  if_pos h

theorem notices_of_isSpeech (h : plan.kind.isSpeech) : plan.notices none = [] := by
  unfold Plan.notices
  cases hk : plan.kind <;> simp_all [StepKind.isSpeech, StepKind.cue?]

theorem degradation_append {cast : Cast} {s : Stage} (as before : List Call) :
    plan.degradation settings cast s (as ++ before) =
      plan.degradation settings cast (s.afterAll cast as) before := by
  unfold Plan.degradation
  simp only [Cast.faultAfter_append]

end Plan

/-! ### Speech -/

section Speech

variable {settings : Settings} {cast : Cast} {plan : Plan} (s : Stage)

theorem show_eq (r : Record) :
    andThen (s.ask cast (.setDialogue r)) (fun _ s => s.ask cast (.notify r)) =
      s.askAll cast [.setDialogue r, .notify r] := by
  rw [Stage.ask_eq, Stage.askAll]
  cases s.fault? cast (.setDialogue r) with
  | some f => rfl
  | none =>
    simp only [answer, andThen]
    rw [Stage.ask_eq, Stage.askAll]
    cases (s.after cast (.setDialogue r)).fault? cast (.notify r) <;> rfl

theorem speak_eq (h : plan.kind.isSpeech) :
    (World.ofStage cast).speak settings plan s = s.askAll cast (plan.calls settings cast.names) := by
  rw [calls_of_isSpeech h]
  unfold World.speak World.displayName lookupCalls Plan.record shownName
  cases Table.get? settings.characterKeys plan.character with
  | none => exact show_eq s _
  | some key =>
    simp only [World.ofStage, Stage.lookup_eq, Option.map_some, Option.toList_some, List.singleton_append]
    rw [Stage.askAll]
    cases s.fault? cast (.lookup key) with
    | some f => rfl
    | none => exact show_eq _ _

theorem runPlan_of_isSpeech (h : plan.kind.isSpeech) :
    runPlan settings cast plan s =
      (((s.askAll cast (plan.calls settings cast.names)).1.mapError Failure.leaving).map
          fun _ => plan.result none,
        (s.askAll cast (plan.calls settings cast.names)).2) := by
  unfold runPlan World.runPlan World.speechStep
  rw [if_pos h, speak_eq s h]
  rcases s.askAll cast (plan.calls settings cast.names) with ⟨f | u, t⟩ <;> rfl

end Speech

/-! ### Directives -/

section Directive

variable {settings : Settings} {cast : Cast} {plan : Plan} (s : Stage)

theorem exists_call (settings : Settings) (names : Table String) (h : ¬ plan.kind.isSpeech) :
    ∃ c, plan.calls settings names = [c] := by
  unfold Plan.calls
  cases hk : plan.kind with
  | dialogue | monologue => exact absurd (by rw [hk]; rfl) h
  | _ => exact ⟨_, rfl⟩

theorem eq_nil_of_prefix_calls {names : Table String} {made : List Call} {c : Call}
    (h : ¬ plan.kind.isSpeech) (hcalls : made ++ [c] <+: plan.calls settings names) :
    made = [] ∧ plan.calls settings names = [c] := by
  obtain ⟨d, hd⟩ := exists_call settings names h
  obtain ⟨rest, hrest⟩ := hcalls
  rw [hd, List.append_assoc, List.singleton_append] at hrest
  cases made with
  | nil => exact ⟨rfl, by rw [hd, ← (List.cons.inj hrest).1]⟩
  | cons e made => simp at hrest

/-- To carry out a directive is to note its cue and then to make its call. -/
theorem direct_eq {σ : Type} (w : World σ) {names : Table String} {c : Call} (h : ¬ plan.kind.isSpeech)
    (hc : plan.calls settings names = [c]) :
    ∃ cue, plan.kind.cue? = some cue ∧ ∀ s, w.direct settings plan.kind plan.content s =
      w.ask c (w.note (.cue cue plan.content) s) := by
  unfold Plan.calls at hc
  cases hk : plan.kind with
  | dialogue | monologue => exact absurd (by rw [hk]; rfl) h
  | _ =>
    rw [hk] at hc
    obtain ⟨rfl, -⟩ := List.cons.inj hc
    exact ⟨_, rfl, fun _ => rfl⟩

variable {c : Call} (h : ¬ plan.kind.isSpeech) (hc : plan.calls settings cast.names = [c])
include h hc

theorem degradation_of_call (before : List Call) :
    plan.degradation settings cast s before = (cast.faultAfter s before c).bind degrading? := by
  unfold Plan.degradation
  rw [if_neg h, hc, List.findSome?_singleton]

/-- To carry out a directive on the stage is to make its call, with the cue noted ahead of it. -/
theorem direct_of_call :
    (World.ofStage cast).direct settings plan.kind plan.content s =
      (answer (s.fault? cast c) (), (s.after cast c).noteAll (plan.notices none)) := by
  obtain ⟨cue, hcue, hdirect⟩ := direct_eq (World.ofStage cast) h hc
  rw [hdirect, Plan.notices, hcue]
  exact (Stage.ask_eq cast _ c).trans (Prod.ext rfl (Stage.after_noteAll cast s c [_]))

/-- **A step that carries out a directive** answers by how its call fails. -/
theorem runPlan_of_call :
    runPlan settings cast plan s =
      (plan.outcome (s.fault? cast c),
        (s.after cast c).noteAll (plan.notices (plan.degradation settings cast s []))) := by
  rw [degradation_of_call s h hc, Cast.faultAfter_nil]
  unfold runPlan World.runPlan World.directiveStep
  rw [if_neg h, direct_of_call s h hc]
  cases s.fault? cast c with
  | none => rfl
  | some f =>
    simp only [answer, Plan.outcome, degrading?, Failure.isError_leaving, Option.bind_some]
    by_cases hf : f.isError
    · simp only [if_pos hf]
      refine Prod.ext rfl ?_
      simp [World.ofStage, Plan.notices, Stage.note, Stage.noteAll]
    · simp only [if_neg hf]

end Directive

/-! ### Steps that end -/

/-- **A step that a call ends** makes its calls up to this one, and nothing more; if it carries out a
directive, it has noted its cue before. -/
theorem runPlan_of_fault {settings : Settings} {cast : Cast} {plan : Plan} {s : Stage} {made : List Call}
    {c : Call} {f : Failure} (hends : c.endsBy f) (hcalls : made ++ [c] <+: plan.calls settings cast.names)
    (hspares : cast.Spares s made) (hf : cast.faultAfter s made c = some f) :
    runPlan settings cast plan s =
      (.error f.leaving, (s.afterAll cast (made ++ [c])).noteAll (plan.notices none)) := by
  by_cases h : plan.kind.isSpeech
  · obtain ⟨rest, hrest⟩ := hcalls
    rw [List.append_assoc, List.singleton_append] at hrest
    have hspeech : ∀ d ∈ made, d.isSpeech := fun d hd =>
      (isSpeech_of_mem_calls (hrest ▸ List.mem_append_left _ hd)).trans h
    rw [runPlan_of_isSpeech s h, ← hrest, Stage.askAll_of_fault hspeech hspares hf, notices_of_isSpeech h]
    refine Prod.ext rfl ?_
    simp [Stage.noteAll]
  · -- the only call of a directive ends the step, so its failure cannot be handled
    obtain ⟨rfl, hc⟩ := eq_nil_of_prefix_calls h hcalls
    have hspeech : c.isSpeech = false :=
      (isSpeech_of_mem_calls (hc ▸ List.mem_singleton_self c)).trans (by simpa using h)
    have herror : ¬ f.isError := by simpa [Call.endsBy, hspeech] using hends
    rw [Cast.faultAfter_nil] at hf
    rw [runPlan_of_call s h hc, degradation_of_call s h hc, Cast.faultAfter_nil, hf]
    simp [Plan.outcome, degrading?, herror]

/-! ### Steps that go on -/

section Run

variable {settings : Settings} {cast : Cast}

/-- **A step that no call ends** makes all calls of its plan. -/
theorem runPlan_of_spares {plan : Plan} {s : Stage}
    (h : cast.Spares s (plan.calls settings cast.names)) :
    runPlan settings cast plan s =
      (.ok (plan.result (plan.degradation settings cast s [])),
        (s.afterAll cast (plan.calls settings cast.names)).noteAll
          (plan.notices (plan.degradation settings cast s []))) := by
  by_cases hk : plan.kind.isSpeech
  · have hspeech : ∀ c ∈ plan.calls settings cast.names, c.isSpeech := fun c hc =>
      (isSpeech_of_mem_calls hc).trans hk
    rw [runPlan_of_isSpeech s hk, Stage.askAll_of_spares hspeech h, degradation_of_isSpeech hk,
      notices_of_isSpeech hk]
    refine Prod.ext rfl ?_
    simp [Stage.noteAll]
  · obtain ⟨c, hc⟩ := exists_call settings cast.names hk
    rw [hc, Cast.spares_cons] at h
    rw [runPlan_of_call s hk hc, hc, degradation_of_call s hk hc, Cast.faultAfter_nil]
    cases hf : s.fault? cast c with
    | none => rfl
    | some f =>
      have herror : f.isError := by
        have hends := h.1 f hf
        simp only [Call.endsBy, Bool.or_eq_true, not_or] at hends
        simpa using hends.2
      simp [Plan.outcome, degrading?, herror]

theorem callsOf_cons (names : Table String) (plan : Plan) (plans : List Plan) :
    callsOf settings names (plan :: plans) = plan.calls settings names ++ callsOf settings names plans :=
  List.flatMap_cons

theorem degradations_cons (s : Stage) (plan : Plan) (plans : List Plan) :
    degradations settings cast s (plan :: plans) =
      (plan, plan.degradation settings cast s []) ::
        degradations settings cast (s.afterAll cast (plan.calls settings cast.names)) plans := by
  unfold degradations
  rw [List.mapIdx_cons]
  refine congrArg (_ :: ·) (List.mapIdx_eq_mapIdx_iff.mpr fun i hi => ?_)
  rw [List.take_succ_cons, callsOf_cons, degradation_append]

theorem length_resultsOf (s : Stage) (plans : List Plan) :
    (resultsOf settings cast s plans).length = plans.length := by
  rw [resultsOf, List.length_map, degradations, List.length_mapIdx]

theorem getElem?_resultsOf {s : Stage} {plans : List Plan} {i : Nat} {plan : Plan}
    (h : plans[i]? = some plan) :
    (resultsOf settings cast s plans)[i]? =
      some (plan.result
        (plan.degradation settings cast s (callsOf settings cast.names (plans.take i)))) := by
  rw [resultsOf, List.getElem?_map, degradations, List.getElem?_mapIdx, h]
  rfl

theorem made_stageAfter (s : Stage) (plans : List Plan) :
    (stageAfter settings cast s plans).made = s.made ++ callsOf settings cast.names plans := by
  rw [stageAfter, Stage.made_noteAll, Stage.made_afterAll]

theorem talk_stageAfter {s : Stage} {plans : List Plan}
    (h : cast.Spares s (callsOf settings cast.names plans)) :
    (stageAfter settings cast s plans).talk =
      (callsOf settings cast.names plans).foldl Talk.after s.talk := by
  rw [stageAfter, Stage.talk_noteAll, Stage.talk_afterAll h]

theorem notices_stageAfter (s : Stage) (plans : List Plan) :
    (stageAfter settings cast s plans).notices = s.notices ++ noticesOf settings cast s plans :=
  congrArg (· ++ noticesOf settings cast s plans) (Stage.notices_afterAll ..)

theorem runPlans_cons (plan : Plan) (plans : List Plan) (s : Stage) :
    Compiled.runPlans settings cast (plan :: plans) s =
      andThen (runPlan settings cast plan s) fun r s =>
        andThen (Compiled.runPlans settings cast plans s) fun rs s => (.ok (r :: rs), s) :=
  rfl

theorem runPlans_cons_of_error {plan : Plan} {s t : Stage} {f : Failure} (plans : List Plan)
    (h : runPlan settings cast plan s = (.error f, t)) :
    Compiled.runPlans settings cast (plan :: plans) s = (.error f, t) := by
  rw [runPlans_cons, h]
  rfl

theorem runPlans_cons_of_ok {plan : Plan} {s t : Stage} {r : StepResult} (plans : List Plan)
    (h : runPlan settings cast plan s = (.ok r, t)) :
    Compiled.runPlans settings cast (plan :: plans) s =
      ((Compiled.runPlans settings cast plans t).1.map (r :: ·),
        (Compiled.runPlans settings cast plans t).2) := by
  rw [runPlans_cons, h]
  simp only [andThen]
  rcases Compiled.runPlans settings cast plans t with ⟨f | rs, t'⟩ <;> rfl

/-- **Steps that no call ends** make the calls of their plans one after another. -/
theorem runPlans_of_spares {plans : List Plan} {s : Stage}
    (h : cast.Spares s (callsOf settings cast.names plans)) :
    Compiled.runPlans settings cast plans s =
      (.ok (resultsOf settings cast s plans), stageAfter settings cast s plans) := by
  unfold resultsOf stageAfter noticesOf
  induction plans generalizing s with
  | nil => simp [Compiled.runPlans, World.runPlans, degradations, callsOf, Stage.noteAll]
  | cons plan plans ih =>
    rw [callsOf_cons] at h
    obtain ⟨hplan, hplans⟩ := Cast.spares_append.mp h
    -- notices have no say in how calls fail, so the other steps go on as from a stage without them
    have hrest (ns : List Notice) :=
      ih (s := (s.afterAll cast (plan.calls settings cast.names)).noteAll ns) hplans
    rw [runPlans_cons_of_ok plans (runPlan_of_spares hplan), hrest, Stage.afterAll_noteAll,
      Stage.noteAll_noteAll, degradations_cons, callsOf_cons, Stage.afterAll_append]
    rfl

/-- A row of steps that runs to its end begins with a step that does, and goes on with a row that does. -/
theorem exists_of_runPlans_cons_ok {plan : Plan} {plans : List Plan} {s t : Stage} {rs : List StepResult}
    (h : Compiled.runPlans settings cast (plan :: plans) s = (.ok rs, t)) :
    ∃ r s' rs', runPlan settings cast plan s = (.ok r, s') ∧
      Compiled.runPlans settings cast plans s' = (.ok rs', t) ∧ rs = r :: rs' := by
  rcases hplan : runPlan settings cast plan s with ⟨f | r, s'⟩
  · rw [runPlans_cons_of_error plans hplan] at h
    cases h
  · rw [runPlans_cons_of_ok plans hplan] at h
    rcases hplans : Compiled.runPlans settings cast plans s' with ⟨f | rs', t'⟩ <;> rw [hplans] at h
    · cases h
    · obtain ⟨hrs, rfl⟩ := Prod.mk.inj h
      exact ⟨r, s', rs', rfl, hplans, (Except.ok.inj hrs).symm⟩

theorem runPlans_append {as : List Plan} {s t : Stage} {rs : List StepResult} (bs : List Plan)
    (h : Compiled.runPlans settings cast as s = (.ok rs, t)) :
    Compiled.runPlans settings cast (as ++ bs) s =
      ((Compiled.runPlans settings cast bs t).1.map (rs ++ ·),
        (Compiled.runPlans settings cast bs t).2) := by
  induction as generalizing s rs with
  | nil =>
    obtain ⟨⟨⟩, rfl⟩ := Prod.mk.inj h
    rw [List.nil_append]
    rcases Compiled.runPlans settings cast bs s with ⟨f | rs', t'⟩ <;> rfl
  | cons a as ih =>
    obtain ⟨r, s', rs', ha, has, rfl⟩ := exists_of_runPlans_cons_ok h
    rw [List.cons_append, runPlans_cons_of_ok _ ha, ih has]
    rcases Compiled.runPlans settings cast bs t with ⟨f | rs'', t''⟩ <;> rfl

theorem run_eq (l : Compiled) (cast : Cast) (s : Stage) :
    l.run cast s =
      andThen (Compiled.runPlans l.settings cast l.plans s) fun results s =>
        (.ok results, s.note (Compiled.closing l.id results)) :=
  rfl

theorem run_of_ok {l : Compiled} {s t : Stage} {rs : List StepResult}
    (h : Compiled.runPlans l.settings cast l.plans s = (.ok rs, t)) :
    l.run cast s = (.ok rs, t.note (Compiled.closing l.id rs)) := by
  rw [run_eq, h]
  rfl

theorem run_of_error {l : Compiled} {s t : Stage} {f : Failure}
    (h : Compiled.runPlans l.settings cast l.plans s = (.error f, t)) :
    l.run cast s = (.error f, t) := by
  rw [run_eq, h]
  rfl

end Run

/-! ### Actions -/

/-- The plans of the steps that an action runs. -/
def Compiled.planned (l : Compiled) : Action → List Plan
  | .run => l.plans
  | .step i => (l.plan? i).toList

/-- An action that runs a step runs the row that consists of it. -/
theorem act_step {l : Compiled} {i : Int} {plan : Plan} (cast : Cast) (s : Stage)
    (h : l.plan? i = some plan) :
    l.act cast (.step i) s = Compiled.runPlans l.settings cast [plan] s := by
  rw [runPlans_cons]
  simp only [Compiled.act, Compiled.runStep, h]
  rcases runPlan l.settings cast plan s with ⟨f | r, t⟩ <;> rfl

theorem act_step_of_none {l : Compiled} {i : Int} (cast : Cast) (s : Stage) (h : l.plan? i = none) :
    l.act cast (.step i) s = (.error (.diagnosed (noStep l.id l.plans.length i)), s) := by
  simp only [Compiled.act, Compiled.runStep, h]

/-- An action leaves the stage that its steps leave, but for notices. -/
theorem act_snd (l : Compiled) (cast : Cast) (a : Action) (s : Stage) :
    ∃ ns, (l.act cast a s).2 = (Compiled.runPlans l.settings cast (l.planned a) s).2.noteAll ns := by
  cases a with
  | run =>
    rcases h : Compiled.runPlans l.settings cast l.plans s with ⟨f | rs, t⟩
    · refine ⟨[], ?_⟩
      simp [Compiled.act, Compiled.planned, run_of_error h, h, Stage.noteAll]
    · refine ⟨[Compiled.closing l.id rs], ?_⟩
      simp [Compiled.act, Compiled.planned, run_of_ok h, h, Stage.note, Stage.noteAll]
  | step i =>
    refine ⟨[], ?_⟩
    cases hi : l.plan? i with
    | none =>
      rw [act_step_of_none cast s hi, Compiled.planned, hi]
      simp [Compiled.runPlans, World.runPlans, Stage.noteAll]
    | some plan =>
      rw [act_step cast s hi, Compiled.planned, hi]
      simp [Stage.noteAll]

/-! ### Labels of scripts -/

/-- The label that a script is compiled to. -/
def Compiled.ofText (id text : String) (settings : Settings) : Compiled :=
  ⟨id, plansOf text, settings⟩

theorem create_text (cast : Cast) (id text : String) (settings : Settings) (s : Stage) :
    create cast id (.text text) settings s =
      (.ok (.ofText id text settings), s.note (.labelCompiled id (plansOf text).length)) :=
  rfl

end Daihon.Label

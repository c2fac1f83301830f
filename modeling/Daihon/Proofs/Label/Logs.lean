import Mathlib.Data.List.Forall2
import Daihon.Proofs.Label.Happenings
import Daihon.Proofs.Label.Isolation
import Daihon.Proofs.Label.Stopping

/-!
# What logs tell

What happens in a run is what happens in its steps, one after another, and the notice that closes it
(`happenings_of_ok`, `happenings_of_error`).  A step of speech makes no notice, and a step that carries out a
directive tells of its cue before it makes its call, and of the failure behind it (`Plan.Tells`).

So the log of a run tells just which steps are degraded and why (`log_tells_degraded`): its warnings of
failures and the degraded results are in step, and a run that returns is closed by one notice, which lists
them.
-/

namespace Daihon

/-- Whether a notice warns of a step that failed. -/
def Notice.isStepFailure (n : Notice) : Bool :=
  n.level = .warning && n.event == "Step failed, continuing"

namespace Label

/-! ### The steps of a run -/

/-- What happens in each of a row of steps, up to the first step that fails. -/
def stepHappenings (settings : Settings) (cast : Cast) : List Plan → Stage → List (List Happening)
  | [], _ => []
  | plan :: plans, s =>
    match runPlan settings cast plan s with
    | (.error _, _) => [plan.happenings settings cast s]
    | (.ok _, t) => plan.happenings settings cast s :: stepHappenings settings cast plans t

section Steps

variable {settings : Settings} {cast : Cast}

theorem stepHappenings_cons_of_error {plan : Plan} {s t : Stage} {f : Failure} (plans : List Plan)
    (h : runPlan settings cast plan s = (.error f, t)) :
    stepHappenings settings cast (plan :: plans) s = [plan.happenings settings cast s] := by
  simp only [stepHappenings, h]

theorem stepHappenings_cons_of_ok {plan : Plan} {s t : Stage} {r : StepResult} (plans : List Plan)
    (h : runPlan settings cast plan s = (.ok r, t)) :
    stepHappenings settings cast (plan :: plans) s =
      plan.happenings settings cast s :: stepHappenings settings cast plans t := by
  simp only [stepHappenings, h]

theorem stepHappenings_append {as : List Plan} {s t : Stage} {rs : List StepResult} (bs : List Plan)
    (h : Compiled.runPlans settings cast as s = (.ok rs, t)) :
    stepHappenings settings cast (as ++ bs) s =
      stepHappenings settings cast as s ++ stepHappenings settings cast bs t := by
  induction as generalizing s rs with
  | nil =>
    obtain ⟨⟨⟩, rfl⟩ := Prod.mk.inj h
    rfl
  | cons a as ih =>
    obtain ⟨r, s', rs', ha, has, -⟩ := exists_of_runPlans_cons_ok h
    rw [List.cons_append, stepHappenings_cons_of_ok _ ha, stepHappenings_cons_of_ok _ ha, ih has,
      List.cons_append]

/-- In a row of steps that runs to its end, every step begins. -/
theorem length_stepHappenings_of_ok {plans : List Plan} {s t : Stage} {rs : List StepResult}
    (h : Compiled.runPlans settings cast plans s = (.ok rs, t)) :
    (stepHappenings settings cast plans s).length = plans.length := by
  induction plans generalizing s rs with
  | nil => rfl
  | cons plan plans ih =>
    obtain ⟨r, s', rs', hplan, hplans, -⟩ := exists_of_runPlans_cons_ok h
    rw [stepHappenings_cons_of_ok plans hplan, List.length_cons, ih hplans, List.length_cons]

/-- Of the steps of a run that stops, those up to the failing one have begun. -/
theorem FirstFailure.length_stepHappenings {plans : List Plan} {s : Stage} {k : Nat} {plan : Plan}
    {made : List Call} {c : Call} {f : Failure}
    (h : FirstFailure settings cast plans s k plan made c f) :
    (stepHappenings settings cast plans s).length = k + 1 := by
  obtain ⟨hk, -⟩ := List.getElem?_eq_some_iff.mp h.step
  have hbefore := length_stepHappenings_of_ok h.runPlans_take
  have hsplit := stepHappenings_append (plan :: plans.drop (k + 1)) h.runPlans_take
  rw [← h.plans_eq, stepHappenings_cons_of_error _ h.runPlan_eq] at hsplit
  rw [hsplit, List.length_append, hbefore, List.length_take_of_le (Nat.le_of_lt hk),
    List.length_singleton]

theorem runPlans_recorded (plans : List Plan) (s : Stage) (hs : List Happening) :
    (World.recorded cast).runPlans settings plans (s, hs) =
      ((Compiled.runPlans settings cast plans s).1, (Compiled.runPlans settings cast plans s).2,
        hs ++ (stepHappenings settings cast plans s).flatten) := by
  induction plans generalizing s hs with
  | nil => simp [World.runPlans, Compiled.runPlans, stepHappenings]
  | cons plan plans ih =>
    rw [World.runPlans, runPlan_recorded]
    rcases h : runPlan settings cast plan s with ⟨f | r, t⟩
    · rw [runPlans_cons_of_error plans h, stepHappenings_cons_of_error plans h, List.flatten_singleton]
      rfl
    · rw [runPlans_cons_of_ok plans h, stepHappenings_cons_of_ok plans h, List.flatten_cons,
        ← List.append_assoc]
      simp only [andThen, ih]
      rcases Compiled.runPlans settings cast plans t with ⟨f | rs, t'⟩ <;> rfl

/-- **A run that returns** is its steps and the notice that closes it. -/
theorem happenings_of_ok {l : Compiled} {s t : Stage} {rs : List StepResult}
    (h : Compiled.runPlans l.settings cast l.plans s = (.ok rs, t)) :
    l.happenings cast s =
      (stepHappenings l.settings cast l.plans s).flatten ++ [.noted (Compiled.closing l.id rs)] := by
  unfold Compiled.happenings World.run
  rw [runPlans_recorded, h]
  rfl

/-- **A run that fails** is its steps. -/
theorem happenings_of_error {l : Compiled} {s t : Stage} {f : Failure}
    (h : Compiled.runPlans l.settings cast l.plans s = (.error f, t)) :
    l.happenings cast s = (stepHappenings l.settings cast l.plans s).flatten := by
  unfold Compiled.happenings World.run
  rw [runPlans_recorded, h]
  rfl

end Steps

/-! ### What a step tells -/

/-- A step that comes after the calls `before` tells by what happens in it how it went: speech makes no
notice, and a directive notes its cue, makes its call, and notes the failure of the call if that degrades
it. -/
structure Plan.Tells (settings : Settings) (cast : Cast) (s : Stage) (before : List Call) (plan : Plan)
    (hs : List Happening) : Prop where
  speech : plan.kind.isSpeech → hs.filterMap Happening.notice? = []
  directive : ¬ plan.kind.isSpeech →
    ∃ cue c, plan.kind.cue? = some cue ∧ (Notice.cue cue plan.content).level = .info ∧
      plan.calls settings cast.names = [c] ∧
      hs = .noted (.cue cue plan.content) :: .called c ::
        (((cast.faultAfter s before c).bind degrading?).map fun f =>
          .noted (.stepFailed plan.index plan.kind.name plan.content f.text)).toList

section Tells

variable {settings : Settings} {cast : Cast} {s : Stage} {plan : Plan}

theorem tells_happenings : plan.Tells settings cast s [] (plan.happenings settings cast s) where
  speech := notices_of_speech_happenings settings cast s
  directive h := by
    obtain ⟨cue, c, hcue, hc, hs⟩ := happenings_of_not_isSpeech settings cast s h
    exact ⟨cue, c, hcue, rfl, hc, hs⟩

/-- A step tells the same when calls before it are counted in. -/
theorem Plan.Tells.append {as before : List Call} {hs : List Happening}
    (h : plan.Tells settings cast (s.afterAll cast as) before hs) :
    plan.Tells settings cast s (as ++ before) hs where
  speech := h.speech
  directive hk := by
    obtain ⟨cue, c, hcue, hlevel, hc, hs⟩ := h.directive hk
    rw [← Cast.faultAfter_append] at hs
    exact ⟨cue, c, hcue, hlevel, hc, hs⟩

/-- A step that has a result has made all calls of its plan. -/
theorem exists_of_runPlan_ok {t : Stage} {r : StepResult}
    (h : runPlan settings cast plan s = (.ok r, t)) :
    ∃ ns, t = (s.afterAll cast (plan.calls settings cast.names)).noteAll ns := by
  by_cases hspares : cast.Spares s (plan.calls settings cast.names)
  · rw [runPlan_of_spares hspares] at h
    exact ⟨_, (Prod.mk.inj h).2.symm⟩
  · obtain ⟨made, c, rest, f, hcalls, hc, hmade, hf⟩ := Cast.exists_fault_of_not_spares hspares
    have hprefix : made ++ [c] <+: plan.calls settings cast.names := ⟨rest, by simp [hcalls]⟩
    rw [runPlan_of_fault hc hprefix hmade hf] at h
    cases h

/-- **Each step that begins** tells how it went. -/
theorem tells_of_getElem?_stepHappenings {plans : List Plan} {i : Nat} {hs : List Happening}
    (h : (stepHappenings settings cast plans s)[i]? = some hs) :
    ∃ plan, plans[i]? = some plan ∧
      plan.Tells settings cast s (callsOf settings cast.names (plans.take i)) hs := by
  induction plans generalizing s i with
  | nil => simp [stepHappenings] at h
  | cons plan plans ih =>
    rcases hplan : runPlan settings cast plan s with ⟨f | r, t⟩
    · rw [stepHappenings_cons_of_error plans hplan] at h
      cases i with
      | zero =>
        obtain rfl := Option.some.inj h
        exact ⟨plan, rfl, tells_happenings⟩
      | succ i => simp at h
    · rw [stepHappenings_cons_of_ok plans hplan] at h
      cases i with
      | zero =>
        obtain rfl := Option.some.inj h
        exact ⟨plan, rfl, tells_happenings⟩
      | succ i =>
        obtain ⟨next, hnext, htells⟩ := ih h
        obtain ⟨ns, rfl⟩ := exists_of_runPlan_ok hplan
        refine ⟨next, hnext, ?_⟩
        rw [List.take_succ_cons, callsOf_cons]
        exact Plan.Tells.append ⟨htells.speech, htells.directive⟩

end Tells

/-! ### Warnings and degraded results -/

/-- The degraded result `r` and the warning `n` tell of the same failure, that of the directive with the
index of `r` as it leaves the coroutine of the directive: the warning has its text, and the reason of the
result its name and its text. -/
def TellOfFailure (settings : Settings) (cast : Cast) (s : Stage) (plans : List Plan) (r : StepResult)
    (n : Notice) : Prop :=
  ∃ plan f, plans[r.index]? = some plan ∧ plan.kind = r.kind ∧
    plan.FailsWith settings cast s (callsOf settings cast.names (plans.take r.index)) f ∧
    n = .stepFailed r.index r.kind.name plan.content f.leaving.text ∧
    r.reason = some (f.leaving.name ++ ": " ++ f.leaving.text)

section Warnings

variable {settings : Settings} {cast : Cast}

/-- A step warns of its failure if there is one, and of nothing else. -/
theorem filter_notices (plan : Plan) (fault : Option Failure) :
    (plan.notices fault).filter Notice.isStepFailure =
      (fault.map fun f => .stepFailed plan.index plan.kind.name plan.content f.text).toList := by
  have hcue (o : Option Cue) :
      (o.map fun cue => Notice.cue cue plan.content).toList.filter Notice.isStepFailure = [] := by
    cases o <;> rfl
  rw [Plan.notices, List.filter_append, hcue, List.nil_append]
  cases fault <;> rfl

/-- Where every failure is told of in the same way by its result and its warning, the degraded results and
the warnings of a row of steps are in step. -/
theorem forall₂_of_degradations {R : StepResult → Notice → Prop} {ds : List (Plan × Option Failure)}
    (h : ∀ plan f, (plan, some f) ∈ ds →
      R (plan.result (some f)) (.stepFailed plan.index plan.kind.name plan.content f.text)) :
    List.Forall₂ R ((ds.map fun d => d.1.result d.2).filter StepResult.isDegraded)
      ((ds.flatMap fun d => d.1.notices d.2).filter Notice.isStepFailure) := by
  induction ds with
  | nil => exact .nil
  | cons d ds ih =>
    obtain ⟨plan, fault⟩ := d
    have hds := ih fun plan f hd => h plan f (List.mem_cons_of_mem _ hd)
    rw [List.map_cons, List.flatMap_cons, List.filter_append, filter_notices]
    cases fault with
    | none => exact hds
    | some f => exact .cons (h plan f List.mem_cons_self) hds

section Numbered

variable {plans : List Plan} (hindex : ∀ (i : Nat) (plan : Plan), plans[i]? = some plan → plan.index = i)
include hindex

/-- The degraded results and the warnings of a row of steps are in step. -/
theorem forall₂_tellOfFailure (settings : Settings) (cast : Cast) (s : Stage) :
    List.Forall₂ (TellOfFailure settings cast s plans)
      ((resultsOf settings cast s plans).filter StepResult.isDegraded)
      ((noticesOf settings cast s plans).filter Notice.isStepFailure) := by
  refine forall₂_of_degradations fun plan f hmem => ?_
  obtain ⟨i, hi⟩ := List.mem_iff_getElem?.mp hmem
  rw [degradations, List.getElem?_mapIdx] at hi
  obtain ⟨plan', hplan, heq⟩ := Option.map_eq_some_iff.mp hi
  obtain ⟨rfl, hf⟩ := Prod.mk.inj heq
  obtain rfl := hindex i plan' hplan
  obtain ⟨g, hg, -, rfl⟩ := degradation_eq_some_iff.mp hf
  exact ⟨plan', g, hplan, rfl, hg, rfl, rfl⟩

theorem map_index_resultsOf (settings : Settings) (cast : Cast) (s : Stage) :
    (resultsOf settings cast s plans).map StepResult.index = List.range plans.length := by
  refine List.ext_getElem? fun i => ?_
  cases hplan : plans[i]? with
  | none =>
    have hi : plans.length ≤ i := List.getElem?_eq_none_iff.mp hplan
    rw [List.getElem?_eq_none (by simpa [length_resultsOf] using hi),
      List.getElem?_eq_none (by simpa using hi)]
  | some plan =>
    obtain ⟨hi, -⟩ := List.getElem?_eq_some_iff.mp hplan
    rw [List.getElem?_map, getElem?_resultsOf hplan, List.getElem?_range hi, ← hindex i plan hplan]
    rfl

theorem pairwise_degraded (settings : Settings) (cast : Cast) (s : Stage) :
    (((resultsOf settings cast s plans).filter StepResult.isDegraded).map StepResult.index).Pairwise
      (· < ·) := by
  have hall : ((resultsOf settings cast s plans).map StepResult.index).Pairwise (· < ·) := by
    rw [map_index_resultsOf hindex]
    exact List.pairwise_lt_range
  exact hall.sublist (List.filter_sublist.map _)

end Numbered

theorem filter_isClosing_notices (plan : Plan) (fault : Option Failure) :
    (plan.notices fault).filter Notice.isClosing = [] := by
  refine List.filter_eq_nil_iff.mpr fun n hn => ?_
  simp [isClosing_of_mem_notices hn]

theorem filter_isClosing_noticesOf (settings : Settings) (cast : Cast) (s : Stage) (plans : List Plan) :
    (noticesOf settings cast s plans).filter Notice.isClosing = [] := by
  refine List.filter_eq_nil_iff.mpr fun n hn => ?_
  simp [isClosing_of_mem_noticesOf hn]

end Warnings

/-! ### Notices of runs -/

section Run

variable {l : Compiled} {cast : Cast} {s : Stage}

theorem isClosing_closing (id : String) (results : List StepResult) :
    (Compiled.closing id results).isClosing := by
  unfold Compiled.closing
  dsimp only
  split <;> rfl

theorem isStepFailure_of_isClosing {n : Notice} (h : n.isClosing) : ¬ n.isStepFailure := by
  cases n with
  | labelFinished label steps => simp [Notice.isStepFailure, Notice.level]
  | labelDegraded label steps => simp [Notice.isStepFailure, Notice.event]
  | _ => cases h

theorem closing_of_ne_nil {id : String} {results : List StepResult}
    (h : (results.filter StepResult.isDegraded).map StepResult.index ≠ []) :
    Compiled.closing id results =
      .labelDegraded id ((results.filter StepResult.isDegraded).map StepResult.index) :=
  if_neg (by simpa using h)

theorem closing_of_eq_nil {id : String} {results : List StepResult}
    (h : (results.filter StepResult.isDegraded).map StepResult.index = []) :
    Compiled.closing id results = .labelFinished id results.length :=
  if_pos (by simpa using h)

theorem spares_of_run_ok {results : List StepResult} {s' : Stage} (h : l.run cast s = (.ok results, s')) :
    cast.Spares s (callsOf l.settings cast.names l.plans) := by
  by_contra hspares
  obtain ⟨k, plan, made, c, f, hfirst⟩ := exists_firstFailure hspares
  rw [run_of_error hfirst.runPlans_eq] at h
  cases h

/-- The notices of a run that returns are those of its steps, and the one that closes it. -/
theorem notices_of_spares (h : cast.Spares s (callsOf l.settings cast.names l.plans)) :
    (l.happenings cast s).filterMap Happening.notice? =
      noticesOf l.settings cast s l.plans ++
        [Compiled.closing l.id (resultsOf l.settings cast s l.plans)] := by
  have hnotices := (records_run_happenings cast s l).notices
  rw [run_of_ok (runPlans_of_spares h), Stage.note, notices_stageAfter, List.append_assoc] at hnotices
  exact (List.append_cancel_left hnotices).symm

/-- The notices of a run that fails are those of the steps before the first failure, and the cue of the
failing one if it is a directive. -/
theorem FirstFailure.notices {k : Nat} {plan : Plan} {made : List Call} {c : Call} {f : Failure}
    (h : FirstFailure l.settings cast l.plans s k plan made c f) :
    (l.happenings cast s).filterMap Happening.notice? =
      noticesOf l.settings cast s (l.plans.take k) ++ plan.notices none := by
  have hnotices := (records_run_happenings cast s l).notices
  rw [run_of_error h.runPlans_eq, Stage.notices_noteAll, Stage.notices_afterAll, notices_stageAfter,
    List.append_assoc] at hnotices
  exact (List.append_cancel_left hnotices).symm

end Run

/-! ### Main statement -/

/-- **The log of a run tells exactly what degraded.**  What happens in a run is what happens in the steps that
begin, one after another, and each of them tells how it went.  If the run returns, all steps have begun, the
warnings of failures are in step with the degraded results, and one closing notice comes last: it lists the
indices of the degraded results in increasing order if there are any, and else gives the number of steps.
If it fails, it has begun the steps up to the first one that a call ends, and is not closed. -/
theorem log_tells_degraded (id text : String) (settings : Settings) (cast : Cast) (s : Stage) :
    let l := Compiled.ofText id text settings
    let told := (l.happenings cast s).filterMap Happening.notice?
    (l.run cast s).2.notices = s.notices ++ told ∧
      (l.run cast s).2.made = s.made ++ (l.happenings cast s).filterMap Happening.call? ∧
      ∃ steps : List (List Happening),
        (∀ (i : Nat) (hs : List Happening), steps[i]? = some hs →
          ∃ plan : Plan, (plansOf text)[i]? = some plan ∧
            plan.Tells settings cast s (callsOf settings cast.names ((plansOf text).take i)) hs) ∧
        (∀ results s', l.run cast s = (.ok results, s') →
          let degraded := (results.filter StepResult.isDegraded).map StepResult.index
          ∃ closing, l.happenings cast s = steps.flatten ++ [.noted closing] ∧
            steps.length = (plansOf text).length ∧
            List.Forall₂ (TellOfFailure settings cast s (plansOf text))
              (results.filter StepResult.isDegraded) (told.filter Notice.isStepFailure) ∧
            told.filter Notice.isClosing = [closing] ∧ degraded.Pairwise (· < ·) ∧
            (degraded ≠ [] → closing = .labelDegraded id degraded ∧ closing.level = .warning) ∧
            (degraded = [] → closing = .labelFinished id (plansOf text).length ∧ closing.level = .debug)) ∧
        ∀ f s', l.run cast s = (.error f, s') →
          l.happenings cast s = steps.flatten ∧
            (∃ k plan made c g, FirstFailure settings cast (plansOf text) s k plan made c g ∧
              f = g.leaving ∧ steps.length = k + 1) ∧
            told.filter Notice.isClosing = [] := by
  intro l told
  have hrecords : Records s (l.happenings cast s) (l.run cast s).2 := records_run_happenings cast s l
  have hindex (i : Nat) (plan : Plan) (h : (plansOf text)[i]? = some plan) : plan.index = i := by
    rw [index_of_getElem?_plansFrom h, Nat.zero_add]
  refine ⟨hrecords.notices, hrecords.made, stepHappenings settings cast (plansOf text) s,
    fun i hs => tells_of_getElem?_stepHappenings, ?_, ?_⟩
  · intro results s' hrun degraded
    have hspares := spares_of_run_ok hrun
    have hsteps := runPlans_of_spares hspares
    rw [run_of_ok hsteps] at hrun
    obtain rfl := Except.ok.inj (Prod.mk.inj hrun).1
    have htold : told = noticesOf settings cast s (plansOf text) ++ [Compiled.closing id _] :=
      notices_of_spares hspares
    have hclosing := isClosing_closing id (resultsOf l.settings cast s l.plans)
    refine ⟨Compiled.closing id _, happenings_of_ok hsteps, length_stepHappenings_of_ok hsteps, ?_, ?_,
      pairwise_degraded hindex settings cast s, ?_, ?_⟩
    · rw [htold, List.filter_append, List.filter_cons_of_neg (isStepFailure_of_isClosing hclosing),
        List.filter_nil, List.append_nil]
      exact forall₂_tellOfFailure hindex settings cast s
    · rw [htold, List.filter_append, filter_isClosing_noticesOf, List.nil_append,
        List.filter_cons_of_pos hclosing, List.filter_nil]
    · intro hne
      rw [closing_of_ne_nil hne]
      exact ⟨rfl, rfl⟩
    · intro hnil
      rw [closing_of_eq_nil hnil, length_resultsOf]
      exact ⟨rfl, rfl⟩
  · intro f s' hrun
    obtain ⟨k, plan, made, c, g, hfirst, hf⟩ := (run_fails_iff id text settings cast s f).mp ⟨s', hrun⟩
    have htold : told = noticesOf settings cast s ((plansOf text).take k) ++ plan.notices none :=
      hfirst.notices
    refine ⟨happenings_of_error hfirst.runPlans_eq,
      ⟨k, plan, made, c, g, hfirst, hf, hfirst.length_stepHappenings⟩, ?_⟩
    rw [htold, List.filter_append, filter_isClosing_noticesOf, filter_isClosing_notices, List.append_nil]

/-- The second background cannot be placed: the run warns of it and is closed by a notice of that step.  With
a notification that fails the run is not closed. -/
theorem log_tells_degraded_clumsyCast :
    (let text := "【背景】海\n【背景】空\n「やあ」"
      ∃ results s',
        (Compiled.ofText "prologue" text .default).run clumsyCast .empty = (.ok results, s') ∧
          (∃ plan hs, (plansOf text)[1]? = some plan ∧ plan.Tells .default clumsyCast .empty
            (callsOf .default clumsyCast.names ((plansOf text).take 1)) hs) ∧
          List.Forall₂ (TellOfFailure .default clumsyCast .empty (plansOf text))
            (results.filter StepResult.isDegraded) (s'.notices.filter Notice.isStepFailure) ∧
          s'.notices.filter Notice.isClosing = [.labelDegraded "prologue" [1]]) ∧
      ∃ f s', (Compiled.ofText "prologue" "「やあ」\n「おい」" .default).run deafCast .empty = (.error f, s') ∧
        s'.notices.filter Notice.isClosing = [] := by
  constructor
  · intro text
    obtain ⟨s', hrun, -⟩ := run_of_sparesSpeech "prologue" text .default .empty clumsyCast_sparesSpeech
      clumsyCast_raisesErrors
    obtain ⟨hnotices, -, steps, htells, hok, -⟩ :=
      log_tells_degraded "prologue" text .default clumsyCast .empty
    rw [hrun, show Stage.empty.notices = [] from rfl, List.nil_append] at hnotices
    obtain ⟨closing, -, hlength, htell, hclosed, -, hdegraded, -⟩ := hok _ _ hrun
    have hindices : ((resultsOf .default clumsyCast .empty (plansOf text)).filter
        StepResult.isDegraded).map StepResult.index = [1] := by decide +kernel
    have hsecond : 1 < steps.length := by rw [hlength]; decide +kernel
    obtain ⟨plan, hplan, hs⟩ := htells 1 _ (List.getElem?_eq_getElem hsecond)
    obtain ⟨rfl, -⟩ := hdegraded (by rw [hindices]; decide)
    rw [hindices] at hclosed
    rw [← hnotices] at htell hclosed
    exact ⟨_, s', hrun, ⟨plan, _, hplan, hs⟩, htell, hclosed⟩
  · have hspared : deafCast.Spares .empty
        [.setDialogue ⟨"", "やあ", false⟩, .notify ⟨"", "やあ", false⟩, .setDialogue ⟨"", "おい", false⟩] := by
      simp only [Cast.spares_cons, Cast.spares_nil, and_true]
      exact ⟨nofun, nofun, nofun⟩
    have hfirst : FirstFailure .default deafCast (plansOf "「やあ」\n「おい」") .empty 1
        ⟨1, .dialogue, "おい", "", 2⟩ [.setDialogue ⟨"", "おい", false⟩] (.notify ⟨"", "おい", false⟩)
        (.raised "OSError" "gone") :=
      ⟨by decide, rfl, ⟨[], rfl⟩, hspared, rfl⟩
    have hrun := run_of_error (l := .ofText "prologue" "「やあ」\n「おい」" .default) hfirst.runPlans_eq
    obtain ⟨hnotices, -, steps, -, -, herror⟩ :=
      log_tells_degraded "prologue" "「やあ」\n「おい」" .default deafCast .empty
    rw [hrun, show Stage.empty.notices = [] from rfl, List.nil_append] at hnotices
    obtain ⟨-, -, hclosed⟩ := herror _ _ hrun
    rw [← hnotices] at hclosed
    exact ⟨_, _, hrun, hclosed⟩

end Label

end Daihon

import Daihon.Proofs.Label.Stopping

/-!
# Running and stepping

A run of a label is its steps run one after another, up to and including the first that fails, and the
closing notice (`run_eq_steps`).  A step that a label does not have fails wherever it is asked for, and
everything goes on as if it had not been asked for.
-/

namespace Daihon.Label

/-! ### Rows of actions -/

/-- The stage that a row of actions leaves. -/
def Compiled.leave (l : Compiled) (cast : Cast) (as : List Action) (s : Stage) : Stage :=
  as.foldl (fun s a => (l.act cast a s).2) s

/-- The actions that run `n` steps, beginning with index `k`. -/
def stepsFrom (k n : Nat) : List Action :=
  (List.range' k n).map fun i => .step (Int.ofNat i)

/-- Outcomes up to and including the first failure. -/
def throughFailure {α : Type} : List (Outcome α) → List (Outcome α)
  | [] => []
  | (.error f, s) :: _ => [(.error f, s)]
  | (.ok a, s) :: os => (.ok a, s) :: throughFailure os

/-- What the steps of a label come to when they are run one after another, up to and including the first
that fails. -/
def Compiled.stepped (l : Compiled) (cast : Cast) (s : Stage) : List (Outcome (List StepResult)) :=
  throughFailure (l.perform cast (stepsFrom 0 l.plans.length) s)

/-- The answer that a row of outcomes gives as a whole: the first failure, or else all results. -/
def answers (os : List (Outcome (List StepResult))) : Except Failure (List StepResult) :=
  (os.mapM Prod.fst).map List.flatten

/-- The last stage in a row of outcomes that begins on the stage `s`. -/
def lastStage {α : Type} (s : Stage) (os : List (Outcome α)) : Stage :=
  (os.getLast?.map Prod.snd).getD s

theorem stepsFrom_succ (k n : Nat) : stepsFrom k (n + 1) = .step k :: stepsFrom (k + 1) n := by
  unfold stepsFrom
  rw [List.range'_succ, List.map_cons]
  rfl

section Outcomes

variable {os : List (Outcome (List StepResult))}

theorem answers_cons_of_error (f : Failure) (t : Stage) : answers ((.error f, t) :: os) = .error f := by
  unfold answers
  rw [List.mapM_cons]
  rfl

theorem answers_cons_of_ok (rs : List StepResult) (t : Stage) :
    answers ((.ok rs, t) :: os) = (answers os).map (rs ++ ·) := by
  unfold answers
  rw [List.mapM_cons]
  cases os.mapM Prod.fst with
  | error f => rfl
  | ok rss => exact congrArg Except.ok List.flatten_cons

theorem lastStage_cons {α : Type} (s : Stage) (o : Outcome α) (os : List (Outcome α)) :
    lastStage s (o :: os) = lastStage o.2 os := by
  unfold lastStage
  rw [List.getLast?_cons]
  cases os.getLast? <;> rfl

/-- The whole fails just with a failure among the outcomes, if nothing follows a failure. -/
theorem answers_throughFailure_eq_error_iff {f : Failure} :
    answers (throughFailure os) = .error f ↔ ∃ t, (.error f, t) ∈ throughFailure os := by
  induction os with
  | nil => simp [throughFailure, answers, Except.map, pure, Except.pure]
  | cons o os ih =>
    obtain ⟨g | rs, t⟩ := o
    · rw [throughFailure, answers_cons_of_error]
      simp [eq_comm]
    · have hcons : ((answers (throughFailure os)).map (rs ++ ·) = .error f) ↔
          answers (throughFailure os) = .error f := by
        cases answers (throughFailure os) <;> simp [Except.map]
      rw [throughFailure, answers_cons_of_ok, hcons, ih]
      simp

end Outcomes

section Perform

variable (l : Compiled) (cast : Cast) (s : Stage)

theorem perform_append (as bs : List Action) :
    l.perform cast (as ++ bs) s = l.perform cast as s ++ l.perform cast bs (l.leave cast as s) := by
  induction as generalizing s with
  | nil => rfl
  | cons a as ih =>
    rw [List.cons_append, Compiled.perform, ih, Compiled.perform]
    rfl

/-! ### Steps by their index -/

theorem plan?_natCast (k : Nat) : l.plan? k = l.plans[k]? := by
  unfold Compiled.plan?
  rw [if_neg (by omega), Int.toNat_natCast]

theorem plan?_eq_none {i : Int} (h : i < 0 ∨ (l.plans.length : Int) ≤ i) : l.plan? i = none := by
  unfold Compiled.plan?
  split
  · rfl
  · rw [List.getElem?_eq_none_iff]
    omega

/-- Running the plans from the one with index `k` on is running the steps from index `k` on. -/
theorem runPlans_eq_steps {k : Nat} {plans : List Plan} (h : l.plans.drop k = plans) :
    Compiled.runPlans l.settings cast plans s =
      (answers (throughFailure (l.perform cast (stepsFrom k plans.length) s)),
        lastStage s (throughFailure (l.perform cast (stepsFrom k plans.length) s))) := by
  induction plans generalizing k s with
  | nil => rfl
  | cons plan plans ih =>
    have hk : l.plan? k = some plan := by
      rw [plan?_natCast, ← Nat.add_zero k, ← List.getElem?_drop, h]
      rfl
    have hrest : l.plans.drop (k + 1) = plans := by
      rw [← List.drop_drop, h]
      rfl
    rw [List.length_cons, stepsFrom_succ, Compiled.perform, act_step cast s hk]
    rcases hplan : runPlan l.settings cast plan s with ⟨f | r, t⟩
    · rw [runPlans_cons_of_error plans hplan, runPlans_cons_of_error [] hplan]
      simp only [throughFailure, answers_cons_of_error]
      rfl
    · rw [runPlans_cons_of_ok plans hplan, runPlans_cons_of_ok [] hplan, ih t hrest]
      simp only [Compiled.runPlans, World.runPlans, Except.map, throughFailure, answers_cons_of_ok,
        lastStage_cons]
      rfl

theorem runPlans_eq_stepped :
    Compiled.runPlans l.settings cast l.plans s =
      (answers (l.stepped cast s), lastStage s (l.stepped cast s)) :=
  runPlans_eq_steps l cast s List.drop_zero

end Perform

/-! ### Main statement -/

/-- **Running is stepping.**  A run answers what the steps answer that are run one after another, and fails
just with a failure of one of them; it leaves the stage that the last of them leaves, but for the closing
notice of a run that returns.  A step that there is none of fails at any point of a row of actions, leaves
the stage as it is, and has no effect on what comes after it. -/
theorem run_eq_steps (l : Compiled) (cast : Cast) (s : Stage) :
    (l.run cast s).1 = answers (l.stepped cast s) ∧
      (∀ f, (l.run cast s).1 = .error f ↔ ∃ t, (.error f, t) ∈ l.stepped cast s) ∧
      (∀ f s', l.run cast s = (.error f, s') → s' = lastStage s (l.stepped cast s)) ∧
      (∀ results s', l.run cast s = (.ok results, s') →
        s' = (lastStage s (l.stepped cast s)).note (Compiled.closing l.id results)) ∧
      ∀ i : Int, i < 0 ∨ (l.plans.length : Int) ≤ i →
        (Failure.diagnosed (noStep l.id l.plans.length i)).name = "StepExecutionError" ∧
          ∀ before after : List Action,
            l.perform cast (before ++ .step i :: after) s =
              l.perform cast before s ++
                (.error (.diagnosed (noStep l.id l.plans.length i)), l.leave cast before s) ::
                  l.perform cast after (l.leave cast before s) := by
  have hsteps := runPlans_eq_stepped l cast s
  have hanswer : (l.run cast s).1 = answers (l.stepped cast s) := by
    rw [run_eq, hsteps]
    cases answers (l.stepped cast s) <;> rfl
  refine ⟨hanswer, ?_, ?_, ?_, ?_⟩
  · intro f
    rw [hanswer]
    exact answers_throughFailure_eq_error_iff
  · intro f s' hrun
    rw [hrun] at hanswer
    rw [run_of_error (hsteps.trans (by rw [← hanswer]))] at hrun
    exact (Prod.mk.inj hrun).2.symm
  · intro results s' hrun
    rw [hrun] at hanswer
    rw [run_of_ok (hsteps.trans (by rw [← hanswer]))] at hrun
    exact (Prod.mk.inj hrun).2.symm
  · intro i hi
    refine ⟨rfl, fun before after => ?_⟩
    rw [perform_append, Compiled.perform, act_step_of_none cast _ (plan?_eq_none l hi)]

/-- The second notification of this cast fails, in a run as in its third step; a step before the first does
nothing. -/
theorem run_eq_steps_deafCast :
    let l := Compiled.ofText "prologue" "【背景】海\n主人公\n「やあ」" .default
    (∃ s', l.run deafCast .empty = (.error (.raised "OSError" "gone"), s') ∧
        s' = lastStage .empty (l.stepped deafCast .empty)) ∧
      (∃ t, (.error (.raised "OSError" "gone"), t) ∈ l.stepped deafCast .empty) ∧
      ((-1 : Int) < 0 ∧
        l.perform deafCast [.run, .step (-1), .step 1] .empty =
          l.perform deafCast [.run] .empty ++
            (.error (.diagnosed (noStep "prologue" 3 (-1))), l.leave deafCast [.run] .empty) ::
              l.perform deafCast [.step 1] (l.leave deafCast [.run] .empty)) := by
  intro l
  obtain ⟨-, hfails, hstage, -, hindex⟩ := run_eq_steps l deafCast .empty
  have hrun : (l.run deafCast .empty).1 = .error (.raised "OSError" "gone") := rfl
  exact ⟨⟨_, Prod.ext hrun rfl, hstage _ _ (Prod.ext hrun rfl)⟩, (hfails _).mp hrun, by decide,
    (hindex (-1) (.inl (by decide))).2 [.run] [.step 1]⟩

end Daihon.Label

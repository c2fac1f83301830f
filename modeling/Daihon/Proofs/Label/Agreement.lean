import Daihon.Proofs.Label.Plans
import Daihon.Proofs.Script.Scenes

/-!
# The scenes and the plans of a script agree

A script is read twice, once into the scenes of a document and once into plans.  Both readings take the
same lines, and `Agree` says what a scene and the plan at its position have in common.  Reading line by
line keeps them in step (`inStep_scenesFrom_plansFrom`), with the speaker of the plans being the name
given last by the scenes (`speakerOf`).
-/

namespace Daihon.Label

open Script

/-! ### What a scene and its plan have in common -/

/-- Who speaks after the scenes: whoever they named last, or else `speaker`. -/
def speakerOf (speaker : String) (scenes : List Scene) : String :=
  (scenes.filterMap Scene.named?).getLast?.getD speaker

/-- The scene and the plan that come from the same line, where `speaker` is speaking. -/
structure Agree (speaker : String) (scene : Scene) (plan : Plan) : Prop where
  number : plan.index + 1 = scene.number
  lineNumber : plan.lineNumber = scene.lineNumber
  directive (kind : DirectiveKind) : plan.kind = .ofDirective kind ↔ scene.IsDirective kind
  value (kind : DirectiveKind) : plan.kind = .ofDirective kind → scene.field kind = some plan.content
  monologue : plan.kind = .monologue ↔ scene.type = .dialogue ∧ scene.isMonologue = some true
  dialogue : plan.kind = .dialogue ↔ scene.type = .dialogue ∧ scene.isMonologue = some false
  content : plan.kind.isSpeech → plan.content = scene.content
  character : plan.character = speaker

/-- Scenes and plans that agree position by position, when `speaker` speaks before them. -/
inductive InStep : String → List Scene → List Plan → Prop where
  | nil (speaker : String) : InStep speaker [] []
  | cons {speaker : String} {scene : Scene} {plan : Plan} {scenes : List Scene} {plans : List Plan}
      (head : Agree (scene.named?.getD speaker) scene plan)
      (tail : InStep (scene.named?.getD speaker) scenes plans) :
      InStep speaker (scene :: scenes) (plan :: plans)

/-! ### One line -/

theorem ofDirective_injective {k k' : DirectiveKind} (h : StepKind.ofDirective k = .ofDirective k') :
    k = k' := by
  cases k <;> cases k' <;> cases h <;> rfl

theorem isSpeech_ofDirective (k : DirectiveKind) : (StepKind.ofDirective k).isSpeech = false := by
  cases k <;> rfl

theorem named?_scene (s : Speech) (number lineNumber : Nat) :
    (s.scene number lineNumber).named? = if s.character.isEmpty then none else some s.character := by
  by_cases h : s.character.isEmpty <;> simp [Scene.named?, Speech.scene, Option.filter, h]

theorem speakerAfter_eq_named? (speaker : String) (c : Content) (line : List Char)
    (number lineNumber : Nat) :
    speakerAfter speaker c = ((c.scene line number lineNumber).named?).getD speaker := by
  cases c with
  | directive d => simp [speakerAfter, Content.scene]
  | speech s =>
    simp only [speakerAfter, nextSpeaker, Content.scene, named?_scene]
    split <;> rfl

theorem agree_scene_planFor (speaker : String) (c : Content) (line : List Char)
    (index lineNumber : Nat) :
    Agree speaker (c.scene line (index + 1) lineNumber) (planFor index lineNumber speaker c) := by
  cases c with
  | directive d =>
    have hkind (k : StepKind) (h : k.isSpeech) : (planFor index lineNumber speaker (.directive d)).kind ≠ k := by
      rintro rfl
      simp [planFor, isSpeech_ofDirective] at h
    refine ⟨by simp [planFor, Content.scene], by simp [planFor, Content.scene], ?_, ?_, ?_, ?_, ?_, rfl⟩
    · intro kind
      simp only [Content.scene, Directive.isDirective_scene_iff, planFor]
      exact ⟨ofDirective_injective, congrArg _⟩
    · intro kind h
      rw [Content.scene, Directive.field_scene, if_pos (ofDirective_injective h).symm]
      rfl
    · simp [hkind .monologue rfl, Content.scene]
    · simp [hkind .dialogue rfl, Content.scene]
    · intro h
      simp [planFor, isSpeech_ofDirective] at h
  | speech s =>
    refine ⟨rfl, rfl, ?_, ?_, ?_, ?_, fun _ => rfl, rfl⟩
    · intro kind
      simp only [planFor, StepKind.ofSpeech, Content.scene, Scene.IsDirective, Speech.scene]
      split <;> cases kind <;> simp [StepKind.ofDirective]
    · intro kind h
      simp only [planFor, StepKind.ofSpeech] at h
      split at h <;> cases kind <;> cases h
    · cases hm : s.isMonologue <;> simp [planFor, StepKind.ofSpeech, Content.scene, Speech.scene, hm]
    · cases hm : s.isMonologue <;> simp [planFor, StepKind.ofSpeech, Content.scene, Speech.scene, hm]

/-! ### All lines -/

/-- **The two readings stay in step.**  Line by line, the scenes and the plans agree, with the speaker
carried along the plans being the one that the scenes name. -/
theorem inStep_scenesFrom_plansFrom (index lineNumber : Nat) (speaker : String) (ls : List (List Char)) :
    InStep speaker (scenesFrom (index + 1) lineNumber ls) (plansFrom index lineNumber speaker ls) := by
  induction ls generalizing index lineNumber speaker with
  | nil => exact .nil speaker
  | cons line ls ih =>
    cases h : content? line with
    | none =>
      rw [scenesFrom_cons_of_none _ _ _ h, plansFrom_cons_of_none _ _ _ _ h]
      exact ih index (lineNumber + 1) speaker
    | some c =>
      rw [scenesFrom_cons_of_some _ _ _ h, plansFrom_cons_of_some _ _ _ _ h,
        speakerAfter_eq_named? speaker c line (index + 1) lineNumber]
      exact .cons (agree_scene_planFor _ c line index lineNumber) (ih (index + 1) (lineNumber + 1) _)

theorem speakerOf_cons (speaker : String) (scene : Scene) (scenes : List Scene) :
    speakerOf speaker (scene :: scenes) = speakerOf (scene.named?.getD speaker) scenes := by
  unfold speakerOf
  rw [List.filterMap_cons]
  cases scene.named? with
  | none => rfl
  | some name =>
    rw [List.getLast?_cons]
    cases (scenes.filterMap Scene.named?).getLast? <;> rfl

theorem InStep.length_eq {speaker : String} {scenes : List Scene} {plans : List Plan}
    (h : InStep speaker scenes plans) : scenes.length = plans.length := by
  induction h with
  | nil => rfl
  | cons _ _ ih => rw [List.length_cons, List.length_cons, ih]

theorem InStep.agree {speaker : String} {scenes : List Scene} {plans : List Plan}
    (h : InStep speaker scenes plans) {i : Nat} {scene : Scene} {plan : Plan}
    (hs : scenes[i]? = some scene) (hp : plans[i]? = some plan) :
    Agree (speakerOf speaker (scenes.take (i + 1))) scene plan := by
  induction h generalizing i with
  | nil => simp at hs
  | cons head tail ih =>
    rw [List.take_succ_cons, speakerOf_cons]
    cases i with
    | zero =>
      rw [List.getElem?_cons_zero, Option.some.injEq] at hs hp
      subst hs hp
      exact head
    | succ i => exact ih hs hp

/-- **The scenes and the plans of a script agree.**  There are as many of the one as of the other, and
at every position they agree, with whoever was named last up to there speaking. -/
theorem scenes_agree_plans (text : String) :
    (Document.ofText text).scenes.length = (plansOf text).length ∧
      ∀ (i : Nat) (scene : Scene) (plan : Plan),
        (Document.ofText text).scenes[i]? = some scene → (plansOf text)[i]? = some plan →
          Agree (speakerOf "" ((Document.ofText text).scenes.take (i + 1))) scene plan := by
  have h := inStep_scenesFrom_plansFrom 0 1 "" (Text.lines text.toList)
  exact ⟨h.length_eq, fun i scene plan hs hp => h.agree hs hp⟩

/-- A portrait between a header and a quoted line names no speaker. -/
theorem scenes_agree_plans_portrait :
    ∃ scene plan, (Document.ofText "太郎\n【立ち絵】花子\n「やあ」").scenes[2]? = some scene ∧
      (plansOf "太郎\n【立ち絵】花子\n「やあ」")[2]? = some plan ∧ Agree "太郎" scene plan := by
  refine ⟨⟨"scene_3", .dialogue, "やあ", 3, 3, some "", none, none, none, none, some false⟩,
    ⟨2, .dialogue, "やあ", "太郎", 3⟩, by decide, by decide, ?_⟩
  have hspeaker : speakerOf "" ((Document.ofText "太郎\n【立ち絵】花子\n「やあ」").scenes.take 3) = "太郎" := by
    decide
  rw [← hspeaker]
  exact (scenes_agree_plans _).2 2 _ _ (by decide) (by decide)

end Daihon.Label

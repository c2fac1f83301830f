import Daihon.Proofs.Label.Attempts

/-!
# What happens in a step, in order

A stage keeps notices and calls apart, so it does not show whether a notice came before a call.  The stage
with a record beside it is another world in which steps run (`World.recorded`): there they also write down
what happens, one thing after another (`Plan.happenings`, `Compiled.happenings`).

Steps run alike in worlds in which notices and calls do (`World.Follows.runPlan`), so what is written down is
what the stage shows (`records_happenings`, `records_run_happenings`).  A step that carries out a directive
notes its cue, makes its call, and notes the failure of the call if that degrades it
(`happenings_of_not_isSpeech`).
-/

namespace Daihon.Label

/-- Something that happens in a step: a notice or a call. -/
inductive Happening where
  | noted (n : Notice)
  | called (c : Call)

def Happening.notice? : Happening → Option Notice
  | noted n => some n
  | called _ => none

def Happening.call? : Happening → Option Call
  | noted _ => none
  | called c => some c

/-! ### Steps that run alike -/

/-- The same answer in two worlds, which are related afterwards. -/
def Alike {σ τ α : Type} (R : σ → τ → Prop) (o : Except Failure α × σ) (o' : Except Failure α × τ) : Prop :=
  o.1 = o'.1 ∧ R o.2 o'.2

/-- Notices and calls run alike in two worlds. -/
structure World.Follows {σ τ : Type} (w : World σ) (w' : World τ) (R : σ → τ → Prop) : Prop where
  note : ∀ n s t, R s t → R (w.note n s) (w'.note n t)
  ask : ∀ c s t, R s t → Alike R (w.ask c s) (w'.ask c t)
  lookup : ∀ key s t, R s t → Alike R (w.lookup key s) (w'.lookup key t)

section Follows

variable {σ τ α β : Type} {R : σ → τ → Prop} {w : World σ} {w' : World τ}

@[elab_as_elim]
theorem Alike.elim {motive : Except Failure α × σ → Except Failure α × τ → Prop}
    {o : Except Failure α × σ} {o' : Except Failure α × τ} (h : Alike R o o')
    (error : ∀ f s t, R s t → motive (.error f, s) (.error f, t))
    (ok : ∀ a s t, R s t → motive (.ok a, s) (.ok a, t)) : motive o o' := by
  obtain ⟨r, s⟩ := o
  obtain ⟨r', t⟩ := o'
  obtain ⟨rfl, hR⟩ := h
  cases r with
  | error f => exact error f s t hR
  | ok a => exact ok a s t hR

theorem Alike.andThen {o : Except Failure α × σ} {o' : Except Failure α × τ}
    {next : α → σ → Except Failure β × σ} {next' : α → τ → Except Failure β × τ} (h : Alike R o o')
    (hnext : ∀ a s t, R s t → Alike R (next a s) (next' a t)) :
    Alike R (andThen o next) (andThen o' next') :=
  h.elim (fun _ _ _ hR => ⟨rfl, hR⟩) hnext

theorem World.Follows.direct (h : w.Follows w' R) (settings : Settings) (kind : StepKind)
    (content : String) {s : σ} {t : τ} (hR : R s t) :
    Alike R (w.direct settings kind content s) (w'.direct settings kind content t) := by
  cases kind with
  | dialogue | monologue => exact ⟨rfl, hR⟩
  | _ => exact h.ask _ _ _ (h.note _ _ _ hR)

theorem World.Follows.displayName (h : w.Follows w' R) (settings : Settings) (name : String) {s : σ} {t : τ}
    (hR : R s t) : Alike R (w.displayName settings name s) (w'.displayName settings name t) := by
  unfold World.displayName
  cases Table.get? settings.characterKeys name with
  | none => exact ⟨rfl, hR⟩
  | some key => exact (h.lookup key s t hR).andThen fun found s t hR => ⟨rfl, hR⟩

theorem World.Follows.speak (h : w.Follows w' R) (settings : Settings) (plan : Plan) {s : σ} {t : τ}
    (hR : R s t) : Alike R (w.speak settings plan s) (w'.speak settings plan t) := by
  refine (h.displayName settings plan.character hR).andThen fun name s t hR => ?_
  exact (h.ask _ s t hR).andThen fun _ s t hR => h.ask _ s t hR

theorem World.Follows.directiveStep (h : w.Follows w' R) (settings : Settings) (plan : Plan) {s : σ}
    {t : τ} (hR : R s t) :
    Alike R (w.directiveStep settings plan s) (w'.directiveStep settings plan t) := by
  unfold World.directiveStep
  refine (h.direct settings plan.kind plan.content hR).elim (fun f s t hR => ?_) fun _ s t hR => ⟨rfl, hR⟩
  by_cases hf : f.leaving.isError
  · simp only [if_pos hf]
    exact ⟨rfl, h.note _ _ _ hR⟩
  · simp only [if_neg hf]
    exact ⟨rfl, hR⟩

theorem World.Follows.speechStep (h : w.Follows w' R) (settings : Settings) (plan : Plan) {s : σ} {t : τ}
    (hR : R s t) : Alike R (w.speechStep settings plan s) (w'.speechStep settings plan t) := by
  unfold World.speechStep
  exact (h.speak settings plan hR).elim (fun _ _ _ hR => ⟨rfl, hR⟩) fun _ _ _ hR => ⟨rfl, hR⟩

/-- **Steps run alike** in worlds in which notices and calls do. -/
theorem World.Follows.runPlan (h : w.Follows w' R) (settings : Settings) (plan : Plan) {s : σ} {t : τ}
    (hR : R s t) : Alike R (w.runPlan settings plan s) (w'.runPlan settings plan t) := by
  unfold World.runPlan
  split
  · exact h.speechStep settings plan hR
  · exact h.directiveStep settings plan hR

theorem World.Follows.runPlans (h : w.Follows w' R) (settings : Settings) (plans : List Plan) {s : σ} {t : τ}
    (hR : R s t) : Alike R (w.runPlans settings plans s) (w'.runPlans settings plans t) := by
  induction plans generalizing s t with
  | nil => exact ⟨rfl, hR⟩
  | cons plan plans ih =>
    refine (h.runPlan settings plan hR).andThen fun r s t hR => ?_
    exact (ih hR).andThen fun rs s t hR => ⟨rfl, hR⟩

/-- **Labels run alike** in worlds in which notices and calls do. -/
theorem World.Follows.run (h : w.Follows w' R) (l : Compiled) {s : σ} {t : τ} (hR : R s t) :
    Alike R (w.run l s) (w'.run l t) :=
  (h.runPlans l.settings l.plans hR).andThen fun _ s t hR => ⟨rfl, h.note _ s t hR⟩

end Follows

/-! ### The record -/

/-- The stage with a record of what happens beside it. -/
def World.recorded (cast : Cast) : World (Stage × List Happening) where
  note n s := (s.1.note n, s.2 ++ [.noted n])
  ask c s := ((s.1.ask cast c).1, (s.1.ask cast c).2, s.2 ++ [.called c])
  lookup key s := ((s.1.lookup cast key).1, (s.1.lookup cast key).2, s.2 ++ [.called (.lookup key)])

/-- What happens in a step, one thing after another. -/
def Plan.happenings (settings : Settings) (cast : Cast) (plan : Plan) (s : Stage) : List Happening :=
  ((World.recorded cast).runPlan settings plan (s, [])).2.2

/-- What happens in a run, one thing after another. -/
def Compiled.happenings (l : Compiled) (cast : Cast) (s : Stage) : List Happening :=
  ((World.recorded cast).run l (s, [])).2.2

/-- What the stage `s` shows beyond `s₀` is what happens in `hs`. -/
structure Records (s₀ : Stage) (hs : List Happening) (s : Stage) : Prop where
  notices : s.notices = s₀.notices ++ hs.filterMap Happening.notice?
  made : s.made = s₀.made ++ hs.filterMap Happening.call?

namespace Records

variable {s₀ s : Stage} {hs : List Happening}

theorem nil (s : Stage) : Records s [] s where
  notices := (List.append_nil _).symm
  made := (List.append_nil _).symm

theorem note (h : Records s₀ hs s) (n : Notice) : Records s₀ (hs ++ [.noted n]) (s.note n) where
  notices := by simp [Stage.note, h.notices, Happening.notice?]
  made := by simp [h.made, Happening.call?]

theorem after (h : Records s₀ hs s) (cast : Cast) (c : Call) :
    Records s₀ (hs ++ [.called c]) (s.after cast c) where
  notices := by simp [Stage.notices_after, h.notices, Happening.notice?]
  made := by simp [Stage.made_after, h.made, Happening.call?]

end Records

section Recorded

variable (cast : Cast)

/-- The record is kept beside a stage that shows it. -/
theorem ofStage_follows_recorded (s₀ : Stage) :
    (World.ofStage cast).Follows (World.recorded cast) fun s t => t.1 = s ∧ Records s₀ t.2 s where
  note n s t h := ⟨congrArg (Stage.note · n) h.1, h.2.note n⟩
  ask c s t h := by
    obtain ⟨rfl, h⟩ := h
    simp only [World.ofStage, World.recorded, Stage.ask_eq]
    exact ⟨rfl, rfl, h.after cast c⟩
  lookup key s t h := by
    obtain ⟨rfl, h⟩ := h
    simp only [World.ofStage, World.recorded, Stage.lookup_eq]
    exact ⟨rfl, rfl, h.after cast (.lookup key)⟩

/-- What happens is recorded behind what has been recorded, whatever that is. -/
theorem recorded_follows_recorded (hs : List Happening) :
    (World.recorded cast).Follows (World.recorded cast) fun t t' => t'.1 = t.1 ∧ t'.2 = hs ++ t.2 where
  note n t t' h := by simp [World.recorded, h.1, h.2]
  ask c t t' h := by simp [World.recorded, Alike, h.1, h.2]
  lookup key t t' h := by simp [World.recorded, Alike, h.1, h.2]

variable (settings : Settings) (plan : Plan) (s : Stage)

/-- **A step beside a record** is the step, and adds to the record what happens in it. -/
theorem runPlan_recorded (hs : List Happening) :
    (World.recorded cast).runPlan settings plan (s, hs) =
      ((runPlan settings cast plan s).1, (runPlan settings cast plan s).2,
        hs ++ plan.happenings settings cast s) := by
  obtain ⟨hresult, hstage, -⟩ :=
    (ofStage_follows_recorded cast s).runPlan settings plan (s := s) (t := (s, [])) ⟨rfl, .nil s⟩
  obtain ⟨hresult', hstage', hrecord⟩ :=
    (recorded_follows_recorded cast hs).runPlan settings plan (s := (s, [])) (t := (s, hs))
      ⟨rfl, (List.append_nil hs).symm⟩
  exact Prod.ext (hresult'.symm.trans hresult.symm) (Prod.ext (hstage'.trans hstage) hrecord)

/-- What happens in a step is what the stage shows of it. -/
theorem records_happenings :
    Records s (plan.happenings settings cast s) (runPlan settings cast plan s).2 := by
  obtain ⟨-, -, hrecords⟩ :=
    (ofStage_follows_recorded cast s).runPlan settings plan (s := s) (t := (s, [])) ⟨rfl, .nil s⟩
  exact hrecords

/-- **What happens in a run** is what the stage shows of it. -/
theorem records_run_happenings (l : Compiled) : Records s (l.happenings cast s) (l.run cast s).2 := by
  obtain ⟨-, -, hrecords⟩ :=
    (ofStage_follows_recorded cast s).run l (s := s) (t := (s, [])) ⟨rfl, .nil s⟩
  exact hrecords

end Recorded

/-! ### What happens in a step -/

section Step

variable (settings : Settings) (cast : Cast) {plan : Plan} (s : Stage)

theorem notices_of_speech_happenings (h : plan.kind.isSpeech) :
    (plan.happenings settings cast s).filterMap Happening.notice? = [] := by
  have hnotices := (records_happenings cast settings plan s).notices
  rw [runPlan_snd, degradation_of_isSpeech h, notices_of_isSpeech h] at hnotices
  simpa [Stage.noteAll, Stage.notices_afterAll] using hnotices

/-- **A step that carries out a directive** notes its cue, makes its call, and notes the failure of the call
if that degrades the step. -/
theorem happenings_of_not_isSpeech (h : ¬ plan.kind.isSpeech) :
    ∃ cue c, plan.kind.cue? = some cue ∧ plan.calls settings cast.names = [c] ∧
      plan.happenings settings cast s =
        .noted (.cue cue plan.content) :: .called c ::
          (((s.fault? cast c).bind degrading?).map fun f =>
            .noted (.stepFailed plan.index plan.kind.name plan.content f.text)).toList := by
  obtain ⟨c, hc⟩ := exists_call settings cast.names h
  obtain ⟨cue, hcue, hdirect⟩ := direct_eq (World.recorded cast) h hc
  -- the cue has no say in whether the call fails
  have hask := Stage.ask_eq cast (s.note (.cue cue plan.content)) c
  rw [show (s.note (.cue cue plan.content)).fault? cast c = s.fault? cast c from rfl] at hask
  refine ⟨cue, c, hcue, hc, ?_⟩
  unfold Plan.happenings World.runPlan World.directiveStep
  rw [if_neg h, hdirect]
  simp only [World.recorded, hask]
  cases s.fault? cast c with
  | none => rfl
  | some f =>
    simp only [answer, degrading?, Failure.isError_leaving, Option.bind_some]
    by_cases hf : f.isError
    · simp [if_pos hf]
    · simp [if_neg hf]

end Step

end Daihon.Label

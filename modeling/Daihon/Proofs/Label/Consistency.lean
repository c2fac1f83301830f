import Daihon.Proofs.Label.Attempts

/-!
# Consistency of dialogue

Whatever is done with a label and whichever calls fail, what is seen of the dialogue fits together
(`consistent_perform`): the record shown is the last of the history, every record of the history was
notified of right after it was shown, and there are notifications of just those records for which that did
not fail.  A step makes its calls in such an order (`paired_asked`), and rows of calls in such an order may
follow one another (`Reaches.trans`), whether the step before came to its end or not.
-/

namespace Daihon.Label

/-! ### Records that are shown and notified of -/

/-- The record that an attempt notifies of, and how that failed, if it did. -/
def Attempt.told? : Attempt → Option (Record × Option Failure)
  | ⟨.notify r, f⟩ => some (r, f)
  | _ => none

/-- In a row of attempts every record that is shown is notified of by the next attempt, and there are no
notifications but these. -/
inductive Paired : List Attempt → Prop where
  | nil : Paired []
  | apart {a : Attempt} {as : List Attempt} (shown : a.shown? = none) (told : a.told? = none)
      (rest : Paired as) : Paired (a :: as)
  | told {r : Record} {f : Option Failure} {as : List Attempt} (rest : Paired as) :
      Paired (⟨.setDialogue r, none⟩ :: ⟨.notify r, f⟩ :: as)

namespace Paired

variable {as bs before after : List Attempt} {r : Record} {f : Option Failure}

theorem append (h : Paired as) (h' : Paired bs) : Paired (as ++ bs) := by
  induction h with
  | nil => exact h'
  | apart shown told _ ih => exact .apart shown told ih
  | told _ ih => exact .told ih

theorem map_told (h : Paired as) :
    (as.filterMap Attempt.told?).map Prod.fst = as.filterMap Attempt.shown? := by
  induction h with
  | nil => rfl
  | apart shown told _ ih => rw [List.filterMap_cons_none told, List.filterMap_cons_none shown, ih]
  | told _ ih => exact congrArg (_ :: ·) ih

theorem told_next (h : Paired as) (heq : as = before ++ ⟨.setDialogue r, none⟩ :: after) :
    ∃ f rest, after = ⟨.notify r, f⟩ :: rest := by
  induction h generalizing before with
  | nil => simp at heq
  | apart shown told _ ih =>
    cases before with
    | nil =>
      obtain ⟨rfl, -⟩ := List.cons.inj heq
      cases shown
    | cons b before => exact ih (List.cons.inj heq).2
  | told _ ih =>
    rcases before with _ | ⟨b, _ | ⟨b', before⟩⟩
    · obtain ⟨hset, rfl⟩ := List.cons.inj heq
      obtain ⟨rfl⟩ := hset
      exact ⟨_, _, rfl⟩
    · simp at heq
    · exact ih (List.cons.inj (List.cons.inj heq).2).2

theorem shown_before (h : Paired as) (heq : as = before ++ ⟨.notify r, f⟩ :: after) :
    ∃ rest, before = rest ++ [⟨.setDialogue r, none⟩] := by
  induction h generalizing before with
  | nil => simp at heq
  | apart shown told _ ih =>
    cases before with
    | nil =>
      obtain ⟨rfl, -⟩ := List.cons.inj heq
      cases told
    | cons b before =>
      obtain ⟨rest, rfl⟩ := ih (List.cons.inj heq).2
      exact ⟨b :: rest, rfl⟩
  | told _ ih =>
    rcases before with _ | ⟨b, _ | ⟨b', before⟩⟩
    · simp at heq
    · obtain ⟨rfl, hnotify⟩ := List.cons.inj heq
      obtain ⟨⟨⟩, -⟩ := List.cons.inj hnotify
      exact ⟨[], rfl⟩
    · obtain ⟨rest, rfl⟩ := ih (List.cons.inj (List.cons.inj heq).2).2
      exact ⟨b :: b' :: rest, rfl⟩

end Paired

/-- The records that there were notifications of are those for which this did not fail. -/
theorem filterMap_notified? (as : List Attempt) :
    as.filterMap Attempt.notified? =
      ((as.filterMap Attempt.told?).filter fun told => told.2.isNone).map Prod.fst := by
  induction as with
  | nil => rfl
  | cons a as ih =>
    obtain ⟨c, f⟩ := a
    cases c with
    | notify r =>
      cases f with
      | none => exact congrArg (r :: ·) ih
      | some g => exact ih
    | _ => exact ih

/-! ### Steps -/

section Step

variable (cast : Cast) (s : Stage)

/-- A record is shown, and then it is notified of unless showing it failed. -/
theorem paired_show (r : Record) :
    Paired (cast.attempts s (s.asked cast [.setDialogue r, .notify r])) := by
  unfold Stage.asked
  cases h : s.fault? cast (.setDialogue r) with
  | some f =>
    simp only [attempts_cons, h]
    exact .apart rfl rfl .nil
  | none =>
    simp only [Stage.asked_singleton, attempts_cons, h]
    exact .told .nil

/-- **A step** notifies of what it shows, and of nothing else. -/
theorem paired_asked (settings : Settings) (plan : Plan) :
    Paired (cast.attempts s (s.asked cast (plan.calls settings cast.names))) := by
  by_cases hk : plan.kind.isSpeech
  · rw [calls_of_isSpeech hk]
    unfold lookupCalls
    cases Table.get? settings.characterKeys plan.character with
    | none => exact paired_show cast s _
    | some key =>
      simp only [Option.map_some, Option.toList_some, List.singleton_append]
      unfold Stage.asked
      cases s.fault? cast (.lookup key) with
      | some f =>
        simp only [attempts_cons]
        exact .apart rfl rfl .nil
      | none =>
        simp only [attempts_cons]
        exact .apart rfl rfl (paired_show cast _ _)
  · obtain ⟨c, hc⟩ := exists_call settings cast.names hk
    have hspeech : c.isSpeech = plan.kind.isSpeech :=
      isSpeech_of_mem_calls (hc ▸ List.mem_singleton_self c)
    rw [hc, Stage.asked_singleton]
    -- the call of a directive is none of speech
    cases c <;> simp_all [Call.isSpeech] <;> exact .apart rfl rfl .nil

end Step

/-! ### Rows of steps -/

/-- The stage `t` is what paired calls, and notices, make of the stage `s`. -/
def Reaches (cast : Cast) (s t : Stage) : Prop :=
  ∃ cs ns, t = (s.afterAll cast cs).noteAll ns ∧ Paired (cast.attempts s cs)

namespace Reaches

variable {cast : Cast} {s t u : Stage}

theorem noteAll (s : Stage) (ns : List Notice) : Reaches cast s (s.noteAll ns) :=
  ⟨[], ns, rfl, .nil⟩

theorem refl (s : Stage) : Reaches cast s s :=
  ⟨[], [], by simp [Stage.noteAll], .nil⟩

theorem trans (h : Reaches cast s t) (h' : Reaches cast t u) : Reaches cast s u := by
  obtain ⟨cs, ns, rfl, hcs⟩ := h
  obtain ⟨cs', ns', rfl, hcs'⟩ := h'
  refine ⟨cs ++ cs', ns ++ ns', ?_, ?_⟩
  · rw [Stage.afterAll_noteAll, Stage.noteAll_noteAll, Stage.afterAll_append]
  · rw [attempts_append]
    exact hcs.append hcs'

end Reaches

section Actions

variable (cast : Cast)

theorem runPlan_reaches (settings : Settings) (plan : Plan) (s : Stage) :
    Reaches cast s (runPlan settings cast plan s).2 :=
  ⟨_, _, runPlan_snd settings cast plan s, paired_asked cast s settings plan⟩

theorem runPlans_reaches (settings : Settings) (plans : List Plan) (s : Stage) :
    Reaches cast s (Compiled.runPlans settings cast plans s).2 := by
  induction plans generalizing s with
  | nil => exact .refl s
  | cons plan plans ih =>
    have hplan := runPlan_reaches cast settings plan s
    rcases h : runPlan settings cast plan s with ⟨f | r, t⟩ <;> rw [h] at hplan
    · rw [runPlans_cons_of_error plans h]
      exact hplan
    · rw [runPlans_cons_of_ok plans h]
      exact hplan.trans (ih t)

/-- **An action**, whether it returns or fails, makes paired calls. -/
theorem act_reaches (l : Compiled) (a : Action) (s : Stage) : Reaches cast s (l.act cast a s).2 := by
  obtain ⟨ns, h⟩ := act_snd l cast a s
  rw [h]
  exact (runPlans_reaches cast l.settings (l.planned a) s).trans (.noteAll _ ns)

theorem perform_reaches (l : Compiled) (as : List Action) (s : Stage) :
    ∀ o ∈ l.perform cast as s, Reaches cast s o.2 := by
  induction as generalizing s with
  | nil => exact fun o ho => absurd ho List.not_mem_nil
  | cons a as ih =>
    have ha := act_reaches cast l a s
    intro o ho
    rcases List.mem_cons.mp ho with rfl | ho
    · exact ha
    · exact ha.trans (ih _ o ho)

end Actions

/-! ### Main statement -/

/-- The calls that have been made on a stage that was empty first, each with its failure. -/
def Stage.attempts (cast : Cast) (s : Stage) : List Attempt :=
  cast.attempts .empty s.made

/-- What is seen of a stage fits the calls that have been made on it. -/
structure Stage.Consistent (cast : Cast) (s : Stage) : Prop where
  /-- The record shown is the last of the history; none is shown just if there is no history. -/
  dialogue : s.dialogue = s.history.getLast?
  /-- The history consists of the records for which showing them did not fail. -/
  history : s.history = (s.attempts cast).filterMap Attempt.shown?
  /-- A record that has been shown is notified of by the next call. -/
  told : ∀ before r after, s.attempts cast = before ++ ⟨.setDialogue r, none⟩ :: after →
    ∃ f rest, after = ⟨.notify r, f⟩ :: rest
  /-- A record is notified of only if the call before has shown it. -/
  toldOnly : ∀ before r f after, s.attempts cast = before ++ ⟨.notify r, f⟩ :: after →
    ∃ rest, before = rest ++ [⟨.setDialogue r, none⟩]
  /-- Of the records of the history, all but those have been notified of for which this failed. -/
  notified : ∃ tellings : List (Record × Option Failure),
    tellings = (s.attempts cast).filterMap Attempt.told? ∧ s.history = tellings.map Prod.fst ∧
      s.notified = (tellings.filter fun telling => telling.2.isNone).map Prod.fst
  /-- The layers are those of the calls for a layer that did not fail. -/
  layers : s.layers = (s.attempts cast).filterMap Attempt.layer?
  /-- The tracks are those of the calls to play that did not fail. -/
  played : s.played = (s.attempts cast).filterMap Attempt.playback?
  /-- There are no events but the calls and the reports of layers in place, each behind its call. -/
  events : s.events = (s.attempts cast).flatMap (Attempt.events cast.delivery)

theorem Reaches.consistent {cast : Cast} {s : Stage} (h : Reaches cast .empty s) : s.Consistent cast := by
  obtain ⟨cs, ns, rfl, hpaired⟩ := h
  have hattempts : ((Stage.empty.afterAll cast cs).noteAll ns).attempts cast = cast.attempts .empty cs := by
    rw [Stage.attempts, Stage.made_noteAll, Stage.made_afterAll]
    rfl
  have hshows := (Stage.shows_afterAll cast .empty cs).noteAll ns
  rw [← hattempts] at hshows hpaired
  have hhistory := hshows.history
  exact
    { dialogue := by rw [hshows.dialogue, hhistory]; exact Option.or_none
      history := hhistory
      told := fun _ _ _ => hpaired.told_next
      toldOnly := fun _ _ _ _ => hpaired.shown_before
      notified := ⟨_, rfl, hhistory.trans hpaired.map_told.symm,
        hshows.notified.trans (filterMap_notified? _)⟩
      layers := hshows.layers
      played := hshows.played
      events := hshows.events }

/-- **Dialogue stays consistent.**  After each of any row of actions with a compiled script, which go on
after failures, whichever calls fail, what is seen of the stage fits the calls that have been made. -/
theorem consistent_perform (id text : String) (settings : Settings) (cast : Cast) (as : List Action) :
    ∃ (l : Compiled) (t : Stage), create cast id (.text text) settings .empty = (.ok l, t) ∧
      ∀ o ∈ l.perform cast as t, o.2.Consistent cast := by
  refine ⟨_, _, create_text cast id text settings .empty, fun o ho => ?_⟩
  have hstart : Reaches cast .empty (Stage.empty.note (.labelCompiled id (plansOf text).length)) :=
    .noteAll .empty [.labelCompiled id (plansOf text).length]
  exact (hstart.trans (perform_reaches cast (.ofText id text settings) as _ o ho)).consistent

/-- A cast whose first notification fails. -/
def forgetfulCast : Cast where
  names := []
  delivery := .immediate
  fault who n := if who = .notifier ∧ n = 0 then some (.raised "OSError" "gone") else none

/-- The run is ended by the notification of the first line, which stays in the history; the second line is
said by itself afterwards. -/
theorem consistent_perform_forgetfulCast :
    ∃ (l : Compiled) (t : Stage) (o : Outcome (List StepResult)),
      create forgetfulCast "test" (.text "「やあ」\n「どうも」") .default .empty = (.ok l, t) ∧
        o ∈ l.perform forgetfulCast [.run, .step 1] t ∧
        o.2.history = [⟨"", "やあ", false⟩, ⟨"", "どうも", false⟩] ∧
        o.2.notified = [⟨"", "どうも", false⟩] ∧ o.2.Consistent forgetfulCast := by
  obtain ⟨l, t, hcreate, h⟩ :=
    consistent_perform "test" "「やあ」\n「どうも」" .default forgetfulCast [.run, .step 1]
  obtain ⟨⟨⟩, rfl⟩ := Prod.mk.inj hcreate
  exact ⟨_, _, _, hcreate, .tail _ (.head _), rfl, rfl, h _ (.tail _ (.head _))⟩

end Daihon.Label

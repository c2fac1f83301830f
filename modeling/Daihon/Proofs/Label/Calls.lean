import Daihon.Label.Run

/-!
# Labels as rows of calls

What a label asks of its collaborators is a row of calls that its plans alone decide (`callsOf`), and
how a call fails depends only on how many calls of the same collaborator came before it
(`Cast.faultAfter`).  Every operation of the stage is a call in this sense (`after`), so that a step
leaves the stage as its calls do (`runPlan_of_spares`, `runPlan_of_fault`), and so do the steps of a run
(`runPlans_of_spares`).
-/

namespace Daihon.Label

/-! ### Calls and their failures -/

/-- Whether a call belongs to a step of speech. -/
def Call.isSpeech : Call → Bool
  | .lookup _ | .setDialogue _ | .notify _ => true
  | .addLayer .. | .play _ => false

/-- Whether a run ends where the call `c` fails with `f`: with a call of speech it does, and else only if
`f` is no error that can be handled. -/
def Call.endsBy (c : Call) (f : Failure) : Bool :=
  c.isSpeech || !f.isError

/-- The calls that are made in an event. -/
def Event.call? : Event → Option Call
  | .call c => some c
  | .layerDone _ => none

/-- How the call `c` fails when the calls `before` are made ahead of it, beginning on the stage `s`. -/
def Cast.faultAfter (cast : Cast) (s : Stage) (before : List Call) (c : Call) : Option Failure :=
  cast.fault c.collaborator
    (s.calls c.collaborator + before.countP fun d => d.collaborator = c.collaborator)

/-- Of the calls `cs`, beginning on the stage `s`, none ends a run. -/
def Cast.Spares (cast : Cast) (s : Stage) (cs : List Call) : Prop :=
  ∀ before c after f, cs = before ++ c :: after → cast.faultAfter s before c = some f → ¬ c.endsBy f

/-- The answer to a call that fails with `fault`, or else gives `a`. -/
def answer {α : Type} (fault : Option Failure) (a : α) : Except Failure α :=
  match fault with
  | some f => .error f
  | none => .ok a

namespace Stage

/-- The calls that have been made. -/
def made (s : Stage) : List Call :=
  s.events.filterMap Event.call?

/-- How the call `c` fails when it is made next. -/
def fault? (cast : Cast) (s : Stage) (c : Call) : Option Failure :=
  cast.fault c.collaborator (s.calls c.collaborator)

/-- Does what a call asks for. -/
def fulfil (delivery : Delivery) (s : Stage) : Call → Stage
  | .addLayer id layer =>
    let s := { s with layers := s.layers ++ [(id, layer)] }
    match delivery with
    | .awaited _ => s.emit (.layerDone id)
    | .immediate | .value => s
  | .setDialogue r => { s with dialogue := some r, history := s.history ++ [r] }
  | .play p => { s with played := s.played ++ [p] }
  | .lookup _ => s
  | .notify r => { s with notified := s.notified ++ [r] }

/-- The stage after a call: it is recorded and counted, and what it asks for is done unless it fails. -/
def after (cast : Cast) (s : Stage) (c : Call) : Stage :=
  let s' := (s.emit (.call c)).count c.collaborator
  match s.fault? cast c with
  | some _ => s'
  | none => s'.fulfil cast.delivery c

/-- The stage after a row of calls, whether they fail or not. -/
def afterAll (cast : Cast) (s : Stage) (cs : List Call) : Stage :=
  cs.foldl (after cast) s

/-- Makes calls in order, up to the first that fails. -/
def askAll (cast : Cast) : List Call → Stage → Outcome Unit
  | [], s => (.ok (), s)
  | c :: cs, s =>
    match s.fault? cast c with
    | some f => (.error f, s.after cast c)
    | none => askAll cast cs (s.after cast c)

/-- Records a row of notices. -/
def noteAll (s : Stage) (ns : List Notice) : Stage :=
  { s with notices := s.notices ++ ns }

end Stage

/-- What has been said: the dialogue shown now, all of it so far, and what there were notifications of. -/
structure Talk where
  dialogue : Option Record
  history : List Record
  notified : List Record

/-- What has been said on a stage. -/
def Stage.talk (s : Stage) : Talk :=
  ⟨s.dialogue, s.history, s.notified⟩

/-- What has been said after a call that does not fail. -/
def Talk.after (t : Talk) : Call → Talk
  | .setDialogue r => { t with dialogue := some r, history := t.history ++ [r] }
  | .notify r => { t with notified := t.notified ++ [r] }
  | .addLayer .. | .play _ | .lookup _ => t

/-! ### The operations of the stage are calls -/

namespace Stage

variable (cast : Cast) (s : Stage)

/-- **Settling is calling.**  An operation that records a call, settles it and does what the call asks for
leaves the stage as the call does. -/
theorem settle_eq {α : Type} (c : Call) (a : α) {act : Stage → α × Stage}
    (h : ∀ s, act s = (a, s.fulfil cast.delivery c)) :
    (s.emit (.call c)).settle cast c.collaborator act = (answer (s.fault? cast c) a, s.after cast c) := by
  unfold settle after
  rw [show (s.emit (.call c)).calls = s.calls from rfl, ← fault?]
  cases s.fault? cast c with
  | some f => rfl
  | none => simp only [h, answer]

theorem play_eq (p : Playback) :
    s.play cast p = (answer (s.fault? cast (.play p)) (), s.after cast (.play p)) :=
  settle_eq cast s (.play p) () fun _ => rfl

theorem lookup_eq (key : String) :
    s.lookup cast key =
      (answer (s.fault? cast (.lookup key)) (cast.names.get? key), s.after cast (.lookup key)) :=
  settle_eq cast s (.lookup key) (cast.names.get? key) fun _ => rfl

theorem setDialogue_eq (r : Record) :
    s.setDialogue cast r = (answer (s.fault? cast (.setDialogue r)) (), s.after cast (.setDialogue r)) :=
  settle_eq cast s (.setDialogue r) () fun _ => rfl

theorem notify_eq (r : Record) :
    s.notify cast r = (answer (s.fault? cast (.notify r)) (), s.after cast (.notify r)) :=
  settle_eq cast s (.notify r) () fun _ => rfl

theorem place_eq (id : LayerId) (layer : Layer) :
    (s.emit (.call (.addLayer id layer))).place cast id layer =
      (answer (s.fault? cast (.addLayer id layer)) (),
        after { cast with delivery := .immediate } s (.addLayer id layer)) :=
  settle_eq { cast with delivery := .immediate } s (.addLayer id layer) () fun _ => rfl

theorem awaitLayer_eq (id : LayerId) (layer : Layer) (yields : Nat) :
    (s.emit (.call (.addLayer id layer))).awaitLayer cast id layer yields =
      (answer (s.fault? cast (.addLayer id layer)) (),
        after { cast with delivery := .awaited yields } s (.addLayer id layer)) := by
  induction yields with
  | zero =>
    rw [awaitLayer, place_eq]
    cases h : s.fault? cast (.addLayer id layer) <;> simp_all [fault?, after, answer, fulfil]
  | succ yields ih =>
    rw [awaitLayer, ih]
    rfl

theorem addLayer_eq (id : LayerId) (layer : Layer) :
    s.addLayer cast id layer =
      (answer (s.fault? cast (.addLayer id layer)) (), s.after cast (.addLayer id layer)) := by
  obtain ⟨names, delivery, fault⟩ := cast
  cases delivery with
  | immediate | value =>
    simp only [addLayer, requestLayer, place_eq]
    cases h : fault? ⟨names, _, fault⟩ s (.addLayer id layer) <;> simp_all [fault?, after, answer, fulfil]
  | awaited yields => simp only [addLayer, requestLayer, awaitLayer_eq]

/-- **Asking is calling**, whatever is asked for. -/
theorem ask_eq (c : Call) : s.ask cast c = (answer (s.fault? cast c) (), s.after cast c) := by
  cases c with
  | addLayer id layer => exact s.addLayer_eq cast id layer
  | setDialogue r => exact s.setDialogue_eq cast r
  | play p => exact s.play_eq cast p
  | lookup key =>
    rw [ask, s.lookup_eq cast key]
    cases s.fault? cast (.lookup key) <;> rfl
  | notify r => exact s.notify_eq cast r

/-! ### What notices leave alone -/

@[simp] theorem made_note (n : Notice) : (s.note n).made = s.made := rfl

@[simp] theorem talk_note (n : Notice) : (s.note n).talk = s.talk := rfl

@[simp] theorem made_noteAll (ns : List Notice) : (s.noteAll ns).made = s.made := rfl

@[simp] theorem notices_noteAll (ns : List Notice) : (s.noteAll ns).notices = s.notices ++ ns := rfl

@[simp] theorem talk_noteAll (ns : List Notice) : (s.noteAll ns).talk = s.talk := rfl

/-! ### What calls leave behind -/

theorem after_of_fault {s : Stage} {c : Call} {f : Failure} (h : s.fault? cast c = some f) :
    s.after cast c = (s.emit (.call c)).count c.collaborator := by
  simp only [after, h]

theorem after_of_none {s : Stage} {c : Call} (h : s.fault? cast c = none) :
    s.after cast c = ((s.emit (.call c)).count c.collaborator).fulfil cast.delivery c := by
  simp only [after, h]

theorem calls_fulfil (delivery : Delivery) (c : Call) : (s.fulfil delivery c).calls = s.calls := by
  cases c with
  | addLayer id layer => cases delivery <;> rfl
  | _ => rfl

theorem made_fulfil (delivery : Delivery) (c : Call) : (s.fulfil delivery c).made = s.made := by
  cases c with
  | addLayer id layer => cases delivery <;> simp [fulfil, made, emit, Event.call?]
  | _ => rfl

theorem fulfil_noteAll (delivery : Delivery) (c : Call) (ns : List Notice) :
    (s.noteAll ns).fulfil delivery c = (s.fulfil delivery c).noteAll ns := by
  cases c with
  | addLayer id layer => cases delivery <;> rfl
  | _ => rfl

theorem notices_fulfil (delivery : Delivery) (c : Call) :
    (s.fulfil delivery c).notices = s.notices := by
  cases c with
  | addLayer id layer => cases delivery <;> rfl
  | _ => rfl

theorem calls_after (c : Call) (who : Collaborator) :
    (s.after cast c).calls who = s.calls who + if c.collaborator = who then 1 else 0 := by
  have hcount : ((s.emit (.call c)).count c.collaborator).calls who =
      s.calls who + if c.collaborator = who then 1 else 0 := by
    simp only [count, emit, eq_comm (a := who)]
    split <;> rfl
  cases h : s.fault? cast c with
  | some f => rw [after_of_fault cast h, hcount]
  | none => rw [after_of_none cast h, calls_fulfil, hcount]

theorem made_after (c : Call) : (s.after cast c).made = s.made ++ [c] := by
  have hcount : ((s.emit (.call c)).count c.collaborator).made = s.made ++ [c] := by
    simp [made, count, emit, Event.call?]
  cases h : s.fault? cast c with
  | some f => rw [after_of_fault cast h, hcount]
  | none => rw [after_of_none cast h, made_fulfil, hcount]

theorem notices_after (c : Call) : (s.after cast c).notices = s.notices := by
  cases h : s.fault? cast c with
  | some f => rw [after_of_fault cast h]; rfl
  | none => rw [after_of_none cast h, notices_fulfil]; rfl

theorem talk_fulfil (delivery : Delivery) (c : Call) :
    (s.fulfil delivery c).talk = s.talk.after c := by
  cases c with
  | addLayer id layer => cases delivery <;> rfl
  | _ => rfl

theorem talk_after_of_fault {s : Stage} {c : Call} {f : Failure} (h : s.fault? cast c = some f) :
    (s.after cast c).talk = s.talk := by
  rw [after_of_fault cast h]; rfl

theorem talk_after {s : Stage} {c : Call} (h : c.isSpeech → s.fault? cast c = none) :
    (s.after cast c).talk = s.talk.after c := by
  cases hf : s.fault? cast c with
  | some f =>
    -- a call that fails is none of speech, and says nothing anyway
    have hc : ¬ c.isSpeech := fun hc => by rw [h hc] at hf; cases hf
    rw [talk_after_of_fault cast hf]
    cases c <;> simp_all [Call.isSpeech, Talk.after]
  | none =>
    rw [after_of_none cast hf, talk_fulfil]; rfl

theorem after_noteAll (c : Call) (ns : List Notice) :
    (s.noteAll ns).after cast c = (s.after cast c).noteAll ns := by
  cases h : s.fault? cast c with
  | some f => rw [after_of_fault cast h, after_of_fault cast (s := s.noteAll ns) h]; rfl
  | none =>
    rw [after_of_none cast h, after_of_none cast (s := s.noteAll ns) h, ← fulfil_noteAll]; rfl

/-! ### Rows of calls -/

@[simp] theorem afterAll_nil : s.afterAll cast [] = s := rfl

@[simp] theorem afterAll_cons (c : Call) (cs : List Call) :
    s.afterAll cast (c :: cs) = (s.after cast c).afterAll cast cs := rfl

theorem afterAll_append (as bs : List Call) :
    s.afterAll cast (as ++ bs) = (s.afterAll cast as).afterAll cast bs :=
  List.foldl_append

theorem made_afterAll (cs : List Call) : (s.afterAll cast cs).made = s.made ++ cs := by
  induction cs generalizing s with
  | nil => simp
  | cons c cs ih => rw [afterAll_cons, ih, made_after, List.append_assoc, List.singleton_append]

theorem notices_afterAll (cs : List Call) : (s.afterAll cast cs).notices = s.notices := by
  induction cs generalizing s with
  | nil => rfl
  | cons c cs ih => rw [afterAll_cons, ih, notices_after]

theorem afterAll_noteAll (cs : List Call) (ns : List Notice) :
    (s.noteAll ns).afterAll cast cs = (s.afterAll cast cs).noteAll ns := by
  induction cs generalizing s with
  | nil => rfl
  | cons c cs ih => rw [afterAll_cons, after_noteAll, ih, afterAll_cons]

theorem noteAll_noteAll (ns ns' : List Notice) :
    (s.noteAll ns).noteAll ns' = s.noteAll (ns ++ ns') := by
  simp [noteAll]

end Stage

/-! ### Failures along a row of calls -/

namespace Cast

variable {cast : Cast} {s : Stage}

@[simp] theorem faultAfter_nil (c : Call) : cast.faultAfter s [] c = s.fault? cast c := rfl

theorem faultAfter_cons (d : Call) (before : List Call) (c : Call) :
    cast.faultAfter s (d :: before) c = cast.faultAfter (s.after cast d) before c := by
  unfold faultAfter
  rw [Stage.calls_after, List.countP_cons, Nat.add_assoc,
    Nat.add_comm (List.countP _ before)]
  simp

theorem faultAfter_append (as before : List Call) (c : Call) :
    cast.faultAfter s (as ++ before) c = cast.faultAfter (s.afterAll cast as) before c := by
  induction as generalizing s with
  | nil => rfl
  | cons d as ih => rw [List.cons_append, faultAfter_cons, ih, Stage.afterAll_cons]

theorem spares_nil : cast.Spares s [] := by
  intro before c after f h
  simp at h

theorem spares_cons {c : Call} {cs : List Call} :
    cast.Spares s (c :: cs) ↔
      (∀ f, s.fault? cast c = some f → ¬ c.endsBy f) ∧ cast.Spares (s.after cast c) cs := by
  constructor
  · intro h
    refine ⟨fun f => h [] c cs f rfl, fun before d after f hcs hf => ?_⟩
    rw [← faultAfter_cons] at hf
    exact h (c :: before) d after f (by rw [hcs, List.cons_append]) hf
  · rintro ⟨hc, hcs⟩ before d after f heq hf
    cases before with
    | nil =>
      obtain ⟨rfl, rfl⟩ := List.cons.inj heq
      exact hc f hf
    | cons b before =>
      obtain ⟨rfl, hrest⟩ := List.cons.inj heq
      rw [faultAfter_cons] at hf
      exact hcs before d after f hrest hf

theorem fault?_eq_none {c : Call} (h : ∀ f, s.fault? cast c = some f → ¬ c.endsBy f)
    (hc : c.isSpeech) : s.fault? cast c = none := by
  rw [Option.eq_none_iff_forall_ne_some]
  intro f hf
  exact h f hf (by simp [Call.endsBy, hc])

theorem spares_append {as bs : List Call} :
    cast.Spares s (as ++ bs) ↔ cast.Spares s as ∧ cast.Spares (s.afterAll cast as) bs := by
  induction as generalizing s with
  | nil => simp [spares_nil]
  | cons a as ih => rw [List.cons_append, spares_cons, spares_cons, ih, and_assoc, Stage.afterAll_cons]

/-- Where a row of calls is not spared, there is a first call that ends the run. -/
theorem exists_fault_of_not_spares {cs : List Call} (h : ¬ cast.Spares s cs) :
    ∃ before c after f, cs = before ++ c :: after ∧ c.endsBy f ∧ cast.Spares s before ∧
      cast.faultAfter s before c = some f := by
  induction cs generalizing s with
  | nil => exact absurd spares_nil h
  | cons d cs ih =>
    by_cases hd : ∀ f, s.fault? cast d = some f → ¬ d.endsBy f
    · have hcs : ¬ cast.Spares (s.after cast d) cs := fun hcs => h (spares_cons.mpr ⟨hd, hcs⟩)
      obtain ⟨before, c, after, f, rfl, hc, hbefore, hf⟩ := ih hcs
      refine ⟨d :: before, c, after, f, rfl, hc, spares_cons.mpr ⟨hd, hbefore⟩, ?_⟩
      rw [faultAfter_cons, hf]
    · obtain ⟨f, hf⟩ := Classical.not_forall.mp hd
      obtain ⟨hfault, hends⟩ := Classical.not_imp.mp hf
      exact ⟨[], d, cs, f, rfl, Classical.not_not.mp hends, spares_nil, hfault⟩

end Cast

namespace Stage

variable {cast : Cast} {s : Stage}

theorem talk_afterAll {cs : List Call} (h : cast.Spares s cs) :
    (s.afterAll cast cs).talk = cs.foldl Talk.after s.talk := by
  induction cs generalizing s with
  | nil => rfl
  | cons c cs ih =>
    obtain ⟨hc, hcs⟩ := Cast.spares_cons.mp h
    rw [afterAll_cons, ih hcs, talk_after cast (Cast.fault?_eq_none hc), List.foldl_cons]

theorem askAll_of_spares {cs : List Call} (hspeech : ∀ c ∈ cs, c.isSpeech) (h : cast.Spares s cs) :
    s.askAll cast cs = (.ok (), s.afterAll cast cs) := by
  induction cs generalizing s with
  | nil => rfl
  | cons c cs ih =>
    obtain ⟨hc, hcs⟩ := Cast.spares_cons.mp h
    obtain ⟨hspeech_c, hspeech_cs⟩ := List.forall_mem_cons.mp hspeech
    rw [askAll, Cast.fault?_eq_none hc hspeech_c, afterAll_cons]
    exact ih hspeech_cs hcs

theorem askAll_of_fault {made rest : List Call} {c : Call} {f : Failure}
    (hspeech : ∀ d ∈ made, d.isSpeech) (h : cast.Spares s made) (hf : cast.faultAfter s made c = some f) :
    s.askAll cast (made ++ c :: rest) = (.error f, s.afterAll cast (made ++ [c])) := by
  induction made generalizing s with
  | nil =>
    rw [Cast.faultAfter_nil] at hf
    rw [List.nil_append, askAll, hf]
    rfl
  | cons d made ih =>
    obtain ⟨hd, hmade⟩ := Cast.spares_cons.mp h
    obtain ⟨hspeech_d, hspeech_made⟩ := List.forall_mem_cons.mp hspeech
    rw [Cast.faultAfter_cons] at hf
    rw [List.cons_append, askAll, Cast.fault?_eq_none hd hspeech_d]
    exact ih hspeech_made hmade hf

end Stage

end Daihon.Label

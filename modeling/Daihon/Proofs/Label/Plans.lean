import Daihon.Label.Plan

/-!
# The plans of a row of lines

Plans are counted along a row of lines, and the speaker is carried from each to the next.  Counting from
a later index, after someone has been speaking, only changes the plans as `Plan.follow` says
(`plansFrom_follow`), so that the plans of two rows, one behind the other, are the plans of the first
followed by the changed plans of the second (`plansFrom_append`).
-/

namespace Daihon.Label

open Script

/-! ### What a line adds, as a plan -/

/-- Who speaks after something that a line adds. -/
def speakerAfter (speaker : String) : Content → String
  | .directive _ => speaker
  | .speech s => nextSpeaker speaker s

/-- The plan for something that a line adds. -/
def planFor (index lineNumber : Nat) (speaker : String) : Content → Plan
  | .directive d => ⟨index, .ofDirective d.kind, d.value, speaker, lineNumber⟩
  | .speech s => ⟨index, .ofSpeech s, s.text, speaker, lineNumber⟩

section Counting

variable {line : List Char} (index lineNumber : Nat) (speaker : String) (ls : List (List Char))

theorem plansFrom_cons_of_none (h : content? line = none) :
    plansFrom index lineNumber speaker (line :: ls) = plansFrom index (lineNumber + 1) speaker ls := by
  simp [plansFrom, h]

theorem plansFrom_cons_of_some {c : Content} (h : content? line = some c) :
    plansFrom index lineNumber speaker (line :: ls) =
      planFor index lineNumber (speakerAfter speaker c) c ::
        plansFrom (index + 1) (lineNumber + 1) (speakerAfter speaker c) ls := by
  cases c <;> simp [plansFrom, h, planFor, speakerAfter]

end Counting

theorem index_of_getElem?_plansFrom {index lineNumber : Nat} {speaker : String} {ls : List (List Char)}
    {i : Nat} {plan : Plan} (h : (plansFrom index lineNumber speaker ls)[i]? = some plan) :
    plan.index = index + i := by
  induction ls generalizing index lineNumber speaker i with
  | nil => simp [plansFrom] at h
  | cons line ls ih =>
    cases hc : content? line with
    | none =>
      rw [plansFrom_cons_of_none _ _ _ _ hc] at h
      exact ih h
    | some c =>
      rw [plansFrom_cons_of_some _ _ _ _ hc] at h
      cases i with
      | zero =>
        rw [List.getElem?_cons_zero, Option.some.injEq] at h
        subst h
        cases c <;> rfl
      | succ i =>
        rw [List.getElem?_cons_succ] at h
        have := ih h
        omega

/-! ### Counting from a later index -/

/-- The plan as it is made behind `plans` more plans and `lines` more lines, where `speaker` speaks until
someone else is named. -/
def Plan.follow (plans lines : Nat) (speaker : String) (plan : Plan) : Plan :=
  { plan with
    index := plan.index + plans
    character := if plan.character.isEmpty then speaker else plan.character
    lineNumber := plan.lineNumber + lines }

theorem follow_planFor (index lineNumber k m : Nat) (speaker current : String) (c : Content) :
    (planFor index lineNumber current c).follow k m speaker =
      planFor (index + k) (lineNumber + m) (if current.isEmpty then speaker else current) c := by
  cases c <;> rfl

theorem speakerAfter_ite (speaker current : String) (c : Content) :
    speakerAfter (if current.isEmpty then speaker else current) c =
      if (speakerAfter current c).isEmpty then speaker else speakerAfter current c := by
  cases c with
  | directive d => rfl
  | speech s =>
    simp only [speakerAfter, nextSpeaker]
    by_cases h : s.character.isEmpty <;> simp [h]

theorem plansFrom_follow (index lineNumber k m : Nat) (speaker current : String)
    (ls : List (List Char)) :
    plansFrom (index + k) (lineNumber + m) (if current.isEmpty then speaker else current) ls =
      (plansFrom index lineNumber current ls).map (Plan.follow k m speaker) := by
  induction ls generalizing index lineNumber current with
  | nil => rfl
  | cons line ls ih =>
    cases h : content? line with
    | none =>
      rw [plansFrom_cons_of_none _ _ _ _ h, plansFrom_cons_of_none _ _ _ _ h, Nat.add_right_comm, ih]
    | some c =>
      rw [plansFrom_cons_of_some _ _ _ _ h, plansFrom_cons_of_some _ _ _ _ h, List.map_cons,
        follow_planFor, speakerAfter_ite, Nat.add_right_comm index, Nat.add_right_comm lineNumber, ih]

/-! ### Rows of lines behind one another -/

/-- Who speaks after the plans, if `speaker` does before them. -/
def lastSpeaker (speaker : String) (plans : List Plan) : String :=
  (plans.getLast?.map Plan.character).getD speaker

theorem lastSpeaker_cons (speaker : String) (plan : Plan) (plans : List Plan) :
    lastSpeaker speaker (plan :: plans) = lastSpeaker plan.character plans := by
  unfold lastSpeaker
  rw [List.getLast?_cons]
  cases plans.getLast? <;> rfl

theorem plansFrom_append (index lineNumber : Nat) (speaker : String) (as bs : List (List Char)) :
    plansFrom index lineNumber speaker (as ++ bs) =
      plansFrom index lineNumber speaker as ++
        plansFrom (index + (plansFrom index lineNumber speaker as).length) (lineNumber + as.length)
          (lastSpeaker speaker (plansFrom index lineNumber speaker as)) bs := by
  induction as generalizing index lineNumber speaker with
  | nil => rfl
  | cons line as ih =>
    have hline : lineNumber + 1 + as.length = lineNumber + (line :: as).length := by
      rw [List.length_cons]; omega
    cases h : content? line with
    | none =>
      rw [List.cons_append, plansFrom_cons_of_none _ _ _ _ h, plansFrom_cons_of_none _ _ _ _ h, ih, hline]
    | some c =>
      have hindex (n : Nat) : index + 1 + n = index + (n + 1) := by omega
      have hspeaker : (planFor index lineNumber (speakerAfter speaker c) c).character =
          speakerAfter speaker c := by cases c <;> rfl
      rw [List.cons_append, plansFrom_cons_of_some _ _ _ _ h, plansFrom_cons_of_some _ _ _ _ h, ih, hline,
        List.cons_append, hindex, ← List.length_cons, lastSpeaker_cons, hspeaker]

end Daihon.Label

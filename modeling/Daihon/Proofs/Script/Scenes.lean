import Daihon.Script.Document

/-!
# The scenes of a row of lines

Scenes are counted along a row of lines, and each of them comes from one of the lines
(`exists_of_getElem?_scenesFrom`).  Counting from a later number only advances the scenes
(`scenesFrom_advance`), so that the scenes of two rows, one behind the other, are the scenes of the
first followed by the advanced scenes of the second (`scenesFrom_append`).  A header is looked for in
the second row only if the first has none (`header_append`).
-/

namespace Daihon.Script

/-! ### Fields of scenes -/

/-- The field of a scene that a kind of directive sets. -/
def Scene.field (scene : Scene) : DirectiveKind → Option String
  | .background => scene.background
  | .bgm => scene.bgm
  | .se => scene.se
  | .character => scene.character

/-- Whether a scene is one of directives of this kind: of the four fields it sets the one of the kind. -/
def Scene.IsDirective (scene : Scene) (kind : DirectiveKind) : Prop :=
  scene.type = .directive ∧ ∀ k, (scene.field k).isSome ↔ k = kind

/-- The name that a scene of speech gives, if it gives one; a portrait names no speaker. -/
def Scene.named? (scene : Scene) : Option String :=
  if scene.type = .dialogue then scene.character.filter fun name => !name.isEmpty else none

section Directive

variable (d : Directive) (line : List Char) (number lineNumber : Nat)

@[simp] theorem Directive.type_scene : (d.scene line number lineNumber).type = .directive := by
  obtain ⟨kind, value⟩ := d
  cases kind <;> rfl

@[simp] theorem Directive.number_scene : (d.scene line number lineNumber).number = number := by
  obtain ⟨kind, value⟩ := d
  cases kind <;> rfl

@[simp] theorem Directive.lineNumber_scene :
    (d.scene line number lineNumber).lineNumber = lineNumber := by
  obtain ⟨kind, value⟩ := d
  cases kind <;> rfl

theorem Directive.field_scene (k : DirectiveKind) :
    (d.scene line number lineNumber).field k = if k = d.kind then some d.value else none := by
  obtain ⟨kind, value⟩ := d
  cases kind <;> cases k <;> rfl

theorem Directive.isDirective_scene_iff (kind : DirectiveKind) :
    (d.scene line number lineNumber).IsDirective kind ↔ d.kind = kind := by
  simp only [Scene.IsDirective, type_scene, field_scene, true_and]
  constructor
  · intro h
    exact (h d.kind).mp (by simp)
  · rintro rfl k
    split <;> simp_all

@[simp] theorem Directive.named?_scene : (d.scene line number lineNumber).named? = none := by
  simp [Scene.named?]

end Directive

/-! ### What a line adds, as a scene -/

/-- The scene that something added by a line makes. -/
def Content.scene (line : List Char) (number lineNumber : Nat) : Content → Scene
  | .directive d => d.scene line number lineNumber
  | .speech s => s.scene number lineNumber

@[simp] theorem Content.lineNumber_scene (c : Content) (line : List Char) (number lineNumber : Nat) :
    (c.scene line number lineNumber).lineNumber = lineNumber := by
  cases c with
  | directive d => simp [Content.scene]
  | speech s => rfl

theorem Content.number_scene (c : Content) (line : List Char) (number lineNumber : Nat) :
    (c.scene line number lineNumber).number = number ∧
      (c.scene line number lineNumber).id = s!"scene_{number}" := by
  cases c with
  | directive d =>
    obtain ⟨kind, value⟩ := d
    cases kind <;> exact ⟨rfl, rfl⟩
  | speech s => exact ⟨rfl, rfl⟩

theorem scene?_eq_map (line : List Char) (number lineNumber : Nat) :
    scene? line number lineNumber = (content? line).map (Content.scene line number lineNumber) := by
  unfold scene? content?
  cases directive? line with
  | some d => rfl
  | none => cases speech? line <;> rfl

section Counting

variable {line : List Char} (number lineNumber : Nat) (ls : List (List Char))

theorem scenesFrom_cons_of_none (h : content? line = none) :
    scenesFrom number lineNumber (line :: ls) = scenesFrom number (lineNumber + 1) ls := by
  simp [scenesFrom, scene?_eq_map, h]

theorem scenesFrom_cons_of_some {c : Content} (h : content? line = some c) :
    scenesFrom number lineNumber (line :: ls) =
      c.scene line number lineNumber :: scenesFrom (number + 1) (lineNumber + 1) ls := by
  simp [scenesFrom, scene?_eq_map, h]

end Counting

/-- Every scene comes from a line that adds something, and is numbered by its place. -/
theorem exists_of_getElem?_scenesFrom {number lineNumber : Nat} {ls : List (List Char)} {i : Nat}
    {scene : Scene} (h : (scenesFrom number lineNumber ls)[i]? = some scene) :
    ∃ m line c, ls[m]? = some line ∧ content? line = some c ∧
      scene = c.scene line (number + i) (lineNumber + m) := by
  induction ls generalizing number lineNumber i with
  | nil => simp [scenesFrom] at h
  | cons line ls ih =>
    -- what holds of the lines behind the first holds with all line numbers one greater
    have hshift {number i : Nat} (h : (scenesFrom number (lineNumber + 1) ls)[i]? = some scene) :
        ∃ m l c, (line :: ls)[m]? = some l ∧ content? l = some c ∧
          scene = c.scene l (number + i) (lineNumber + m) := by
      obtain ⟨m, l, c, hl, hc, rfl⟩ := ih h
      exact ⟨m + 1, l, c, hl, hc, by rw [Nat.add_assoc, Nat.add_comm 1]⟩
    cases hc : content? line with
    | none =>
      rw [scenesFrom_cons_of_none _ _ _ hc] at h
      exact hshift h
    | some c =>
      rw [scenesFrom_cons_of_some _ _ _ hc] at h
      cases i with
      | zero => exact ⟨0, line, c, rfl, hc, (Option.some.inj h).symm⟩
      | succ i =>
        obtain ⟨m, l, c', hl, hc', hscene⟩ := hshift h
        exact ⟨m, l, c', hl, hc', by rw [hscene, Nat.add_assoc, Nat.add_comm 1]⟩

/-! ### Counting from a later number -/

/-- The scene as it is counted behind `scenes` more scenes and `lines` more lines. -/
def Scene.advance (scenes lines : Nat) (scene : Scene) : Scene :=
  { scene with
    id := s!"scene_{scene.number + scenes}"
    number := scene.number + scenes
    lineNumber := scene.lineNumber + lines }

theorem Content.advance_scene (c : Content) (line : List Char) (number lineNumber k m : Nat) :
    (c.scene line number lineNumber).advance k m = c.scene line (number + k) (lineNumber + m) := by
  have hid : s!"scene_{(number : Int) + k}" = s!"scene_{number + k}" := by
    rw [← Int.natCast_add]; rfl
  cases c with
  | directive d =>
    obtain ⟨kind, value⟩ := d
    cases kind <;> simp only [Content.scene, Directive.scene, Scene.advance, hid, Int.natCast_add]
  | speech s => simp only [Content.scene, Speech.scene, Scene.advance, hid, Int.natCast_add]

theorem scenesFrom_advance (number lineNumber k m : Nat) (ls : List (List Char)) :
    scenesFrom (number + k) (lineNumber + m) ls =
      (scenesFrom number lineNumber ls).map (Scene.advance k m) := by
  induction ls generalizing number lineNumber with
  | nil => rfl
  | cons line ls ih =>
    cases h : content? line with
    | none =>
      rw [scenesFrom_cons_of_none _ _ _ h, scenesFrom_cons_of_none _ _ _ h, Nat.add_right_comm, ih]
    | some c =>
      rw [scenesFrom_cons_of_some _ _ _ h, scenesFrom_cons_of_some _ _ _ h, List.map_cons,
        c.advance_scene, Nat.add_right_comm number, Nat.add_right_comm lineNumber, ih]

/-! ### Rows of lines behind one another -/

theorem scenesFrom_append (number lineNumber : Nat) (as bs : List (List Char)) :
    scenesFrom number lineNumber (as ++ bs) =
      scenesFrom number lineNumber as ++
        scenesFrom (number + (scenesFrom number lineNumber as).length) (lineNumber + as.length) bs := by
  induction as generalizing number lineNumber with
  | nil => rfl
  | cons line as ih =>
    have hline : lineNumber + 1 + as.length = lineNumber + (line :: as).length := by
      rw [List.length_cons]; omega
    cases h : content? line with
    | none =>
      rw [List.cons_append, scenesFrom_cons_of_none _ _ _ h, scenesFrom_cons_of_none _ _ _ h, ih, hline]
    | some c =>
      have hnumber (n : Nat) : number + 1 + n = number + (n + 1) := by omega
      rw [List.cons_append, scenesFrom_cons_of_some _ _ _ h, scenesFrom_cons_of_some _ _ _ h, ih, hline,
        List.cons_append, hnumber, ← List.length_cons]

/-- Whether a line, blanks around it aside, starts with `mark`. -/
def isHeader (mark line : List Char) : Bool :=
  Text.startsWith mark (Text.trim line)

theorem header_append (mark : List Char) (as bs : List (List Char)) :
    header mark (as ++ bs) = if as.any (isHeader mark) then header mark as else header mark bs := by
  induction as with
  | nil => rfl
  | cons line as ih =>
    cases h : Text.after? mark (Text.trim line) with
    | none => simp [header, isHeader, Text.startsWith, h, ih]
    | some rest => simp [header, isHeader, Text.startsWith, h]

end Daihon.Script

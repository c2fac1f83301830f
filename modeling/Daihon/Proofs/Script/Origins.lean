import Daihon.Proofs.Script.Kinds

/-!
# The scenes and the lines of a script

A document accounts for the lines of its script (`ofText_accountsFor`): every line that is not structural
makes one scene, in order, which holds what the line adds and sets no field besides, and the headers of the
document are what the first lines for them say.

Where the scenes stand is known from the numbers of their lines, which are those of all lines that are not
structural (`lineNumbers_scenesFrom`).  What they hold is known from the line that each of them comes from
(`exists_of_mem_scenes_ofText`).
-/

namespace Daihon.Script

/-- Whether `line` is the line with number `n`; lines are counted from 1. -/
def IsLine (ls : List (List Char)) (n : Int) (line : List Char) : Prop :=
  ∃ i : Nat, ls[i]? = some line ∧ n = i + 1

/-- A scene that holds a directive: it sets the one field of its kind, and its content gives the directive
again. -/
structure Scene.HoldsDirective (scene : Scene) (d : Directive) : Prop where
  field (kind : DirectiveKind) : scene.field kind = if kind = d.kind then some d.value else none
  content : directive? scene.content.toList = some d
  choices : scene.choices = none
  isMonologue : scene.isMonologue = none

/-- A scene that holds a line of speech: it sets the character and whether it is a monologue, and its
content is the text. -/
structure Scene.HoldsSpeech (scene : Scene) (s : Speech) : Prop where
  content : scene.content = s.text
  character : scene.character = some s.character
  isMonologue : scene.isMonologue = some s.isMonologue
  background : scene.background = none
  bgm : scene.bgm = none
  se : scene.se = none
  choices : scene.choices = none

/-- What the first line that starts with `mark` says behind it, trimmed; nothing if no line does. -/
inductive FirstSays (mark : List Char) (ls : List (List Char)) : String → Prop where
  | none (h : ∀ line ∈ ls, ¬mark <+: Text.trim line) : FirstSays mark ls ""
  | first {before after : List (List Char)} {line rest : List Char} (hls : ls = before ++ line :: after)
      (hbefore : ∀ l ∈ before, ¬mark <+: Text.trim l) (hline : Text.trim line = mark ++ rest) :
      FirstSays mark ls (.ofList (Text.trim rest))

/-- A document that accounts for the lines of a script. -/
structure Document.AccountsFor (doc : Document) (ls : List (List Char)) : Prop where
  increasing : (doc.scenes.map Scene.lineNumber).Pairwise (· < ·)
  lineNumber_iff (n : Int) :
    n ∈ doc.scenes.map Scene.lineNumber ↔ ∃ line, IsLine ls n line ∧ isStructural line = false
  numbered (i : Nat) (scene : Scene) : doc.scenes[i]? = some scene →
    scene.number = i + 1 ∧ scene.id = s!"scene_{i + 1}"
  directive : ∀ scene ∈ doc.directiveScenes, ∃ line d, IsLine ls scene.lineNumber line ∧
    directive? line = some d ∧ scene.HoldsDirective d
  speech : ∀ scene ∈ doc.dialogueScenes, ∃ line s, IsLine ls scene.lineNumber line ∧
    speech? line = some s ∧ scene.HoldsSpeech s
  directiveScenes_sublist : doc.directiveScenes.Sublist doc.scenes
  dialogueScenes_sublist : doc.dialogueScenes.Sublist doc.scenes
  disjoint : doc.directiveScenes.Disjoint doc.dialogueScenes
  perm : (doc.directiveScenes ++ doc.dialogueScenes).Perm doc.scenes
  title : FirstSays titleMark ls doc.title
  chapter : FirstSays chapterMark ls doc.chapter
  header : ∀ scene ∈ doc.scenes, ∀ line, IsLine ls scene.lineNumber line →
    ¬titleMark <+: Text.trim line ∧ ¬chapterMark <+: Text.trim line

/-! ### One line -/

theorem Directive.holdsDirective_scene {d : Directive} {line : List Char} (h : directive? line = some d)
    (number lineNumber : Nat) : (d.scene line number lineNumber).HoldsDirective d := by
  have hcontent : directive? (Text.trim line) = some d := (directive?_trim line).trans h
  refine ⟨d.field_scene line number lineNumber, ?_, ?_, ?_⟩ <;>
    obtain ⟨kind, value⟩ := d <;> cases kind <;> simp [Directive.scene, hcontent]

theorem Speech.holdsSpeech_scene (s : Speech) (number lineNumber : Nat) :
    (s.scene number lineNumber).HoldsSpeech s :=
  ⟨rfl, rfl, rfl, rfl, rfl, rfl, rfl⟩

/-! ### All lines -/

/-- The scenes stand at the lines that are not structural. -/
theorem lineNumbers_scenesFrom (number lineNumber : Nat) (ls : List (List Char)) :
    (scenesFrom number lineNumber ls).map Scene.lineNumber =
      ((ls.zipIdx lineNumber).filter fun (line, _) => !isStructural line).map fun (_, n) => (n : Int) := by
  induction ls generalizing number lineNumber with
  | nil => rfl
  | cons line ls ih =>
    rw [List.zipIdx_cons]
    cases hc : content? line with
    | none =>
      have hs := content?_eq_none_iff.mp hc
      rw [scenesFrom_cons_of_none _ _ _ hc, ih, List.filter_cons_of_neg (by simp [hs])]
    | some c =>
      have hs : isStructural line = false := by
        rw [← Bool.not_eq_true, ← content?_eq_none_iff, hc]
        simp
      rw [scenesFrom_cons_of_some _ _ _ hc, List.map_cons, ih, List.filter_cons_of_pos (by simp [hs]),
        List.map_cons, Content.lineNumber_scene]

theorem pairwise_lineNumbers_scenesFrom (number lineNumber : Nat) (ls : List (List Char)) :
    ((scenesFrom number lineNumber ls).map Scene.lineNumber).Pairwise (· < ·) := by
  have hrange : ((ls.zipIdx lineNumber).map Prod.snd).Pairwise (· < ·) := by
    rw [List.zipIdx_map_snd]
    exact List.pairwise_lt_range'
  rw [lineNumbers_scenesFrom, List.pairwise_map]
  refine ((List.pairwise_map.mp hrange).sublist List.filter_sublist).imp ?_
  exact fun h => Int.ofNat_lt.mpr h

theorem mem_lineNumbers_scenesFrom {number : Nat} {ls : List (List Char)} {n : Int} :
    n ∈ (scenesFrom number 1 ls).map Scene.lineNumber ↔
      ∃ line, IsLine ls n line ∧ isStructural line = false := by
  rw [lineNumbers_scenesFrom]
  simp only [List.mem_map, List.mem_filter, Prod.exists, List.mk_mem_zipIdx_iff_le_and_getElem?_sub,
    Bool.not_eq_true', IsLine]
  constructor
  · rintro ⟨line, m, ⟨⟨hm, hline⟩, hs⟩, rfl⟩
    exact ⟨line, ⟨m - 1, hline, by omega⟩, hs⟩
  · rintro ⟨line, ⟨i, hline, rfl⟩, hs⟩
    exact ⟨line, i + 1, ⟨⟨by omega, hline⟩, hs⟩, rfl⟩

/-- Every line makes a scene or is structural. -/
theorem length_scenesFrom (number lineNumber : Nat) (ls : List (List Char)) :
    (scenesFrom number lineNumber ls).length + ls.countP isStructural = ls.length := by
  have hcount : (scenesFrom number lineNumber ls).length = ls.countP fun line => !isStructural line := by
    calc (scenesFrom number lineNumber ls).length
        = ((scenesFrom number lineNumber ls).map Scene.lineNumber).length := (List.length_map _).symm
      _ = (ls.zipIdx lineNumber).countP fun (line, _) => !isStructural line := by
        rw [lineNumbers_scenesFrom, List.length_map, List.countP_eq_length_filter]
      _ = ((ls.zipIdx lineNumber).map Prod.fst).countP fun line => !isStructural line := by
        rw [List.countP_map]
        rfl
      _ = ls.countP fun line => !isStructural line := by rw [List.zipIdx_map_fst]
  rw [hcount, List.length_eq_countP_add_countP isStructural, Nat.add_comm]
  simp

theorem firstSays_header (mark : List Char) (ls : List (List Char)) :
    FirstSays mark ls (header mark ls) := by
  induction ls with
  | nil => exact .none fun _ h => nomatch h
  | cons line ls ih =>
    rw [header]
    cases hafter : Text.after? mark (Text.trim line) with
    | some rest =>
      have hls : line :: ls = [] ++ line :: ls := rfl
      exact .first hls (fun _ h => nomatch h) (Text.after?_eq_some_iff.mp hafter)
    | none =>
      have hline : ¬mark <+: Text.trim line := after?_eq_none_iff.mp hafter
      simp only
      generalize header mark ls = said at ih
      cases ih with
      | none h => exact .none (List.forall_mem_cons.mpr ⟨hline, h⟩)
      | first hls hbefore hfirst =>
        exact .first (congrArg (line :: ·) hls) (List.forall_mem_cons.mpr ⟨hline, hbefore⟩) hfirst

/-! ### Documents -/

namespace Document

variable (text : String)

/-- Every scene of a script comes from the line that it is numbered with. -/
theorem exists_of_mem_scenes_ofText {text : String} {scene : Scene} (h : scene ∈ (ofText text).scenes) :
    ∃ line c number lineNumber, IsLine (Text.lines text.toList) scene.lineNumber line ∧
      content? line = some c ∧ scene = c.scene line number lineNumber := by
  obtain ⟨i, hi⟩ := List.mem_iff_getElem?.mp h
  obtain ⟨m, line, c, hline, hc, hscene⟩ := exists_of_getElem?_scenesFrom hi
  refine ⟨line, c, 1 + i, 1 + m, ⟨m, hline, ?_⟩, hc, hscene⟩
  rw [hscene, Content.lineNumber_scene, Nat.add_comm]
  rfl

theorem exists_of_mem_directiveScenes {text : String} {scene : Scene}
    (h : scene ∈ (ofText text).directiveScenes) :
    ∃ line d, IsLine (Text.lines text.toList) scene.lineNumber line ∧ directive? line = some d ∧
      scene.HoldsDirective d := by
  obtain ⟨hmem, htype⟩ := List.mem_filter.mp h
  obtain ⟨line, c, number, lineNumber, hline, hc, rfl⟩ := exists_of_mem_scenes_ofText hmem
  cases c with
  | directive d =>
    have hd := content?_eq_directive_iff.mp hc
    exact ⟨line, d, hline, hd, Directive.holdsDirective_scene hd _ _⟩
  | speech s => simp [Content.scene, Speech.scene] at htype

theorem exists_of_mem_dialogueScenes {text : String} {scene : Scene}
    (h : scene ∈ (ofText text).dialogueScenes) :
    ∃ line s, IsLine (Text.lines text.toList) scene.lineNumber line ∧ speech? line = some s ∧
      scene.HoldsSpeech s := by
  obtain ⟨hmem, htype⟩ := List.mem_filter.mp h
  obtain ⟨line, c, number, lineNumber, hline, hc, rfl⟩ := exists_of_mem_scenes_ofText hmem
  cases c with
  | directive d => simp [Content.scene] at htype
  | speech s => exact ⟨line, s, hline, content?_eq_speech_iff.mp hc, s.holdsSpeech_scene _ _⟩

theorem directiveScenes_ofText :
    (ofText text).directiveScenes =
      (ofText text).scenes.filter fun scene => !decide (scene.type = .dialogue) := by
  refine List.filter_congr fun scene h => ?_
  obtain ⟨line, c, number, lineNumber, -, -, rfl⟩ := exists_of_mem_scenes_ofText h
  cases c <;> simp [Content.scene, Speech.scene]

/-- A line for the title or the chapter makes no scene. -/
theorem not_mark_isPrefix_of_mem_scenes {text : String} {scene : Scene}
    (h : scene ∈ (ofText text).scenes) {line : List Char}
    (hline : IsLine (Text.lines text.toList) scene.lineNumber line) :
    ¬titleMark <+: Text.trim line ∧ ¬chapterMark <+: Text.trim line := by
  obtain ⟨line', ⟨m, hm, hn⟩, hs⟩ := mem_lineNumbers_scenesFrom.mp (List.mem_map_of_mem h)
  obtain ⟨i, hi, hn'⟩ := hline
  -- there is but one line with this number
  obtain rfl : i = m := by omega
  obtain rfl := Option.some.inj (hm.symm.trans hi)
  rw [isStructural, ← Bool.not_eq_true, isStructuralTrimmed_iff, not_or, not_or, not_or] at hs
  exact hs.2.2

theorem ofText_accountsFor : (ofText text).AccountsFor (Text.lines text.toList) where
  increasing := pairwise_lineNumbers_scenesFrom 1 1 _
  lineNumber_iff _ := mem_lineNumbers_scenesFrom
  numbered i scene h := by
    obtain ⟨m, line, c, -, -, rfl⟩ := exists_of_getElem?_scenesFrom h
    rw [Nat.add_comm 1 i]
    exact c.number_scene line (i + 1) (1 + m)
  directive _ h := exists_of_mem_directiveScenes h
  speech _ h := exists_of_mem_dialogueScenes h
  directiveScenes_sublist := List.filter_sublist
  dialogueScenes_sublist := List.filter_sublist
  disjoint scene hd hs := by
    have hd := of_decide_eq_true (List.mem_filter.mp hd).2
    have hs := of_decide_eq_true (List.mem_filter.mp hs).2
    rw [hd] at hs
    cases hs
  perm := by
    rw [directiveScenes_ofText]
    exact List.perm_append_comm.trans (List.filter_append_perm _ _)
  title := firstSays_header titleMark _
  chapter := firstSays_header chapterMark _
  header _ h _ hline := not_mark_isPrefix_of_mem_scenes h hline

end Document

/-- **Scenes account for lines.**  The document of a script accounts for its lines, and it is reported with
the number of its scenes and the number of lines that make none, which together are all lines. -/
theorem scenes_account_for_lines (text : String) :
    (Document.ofText text).AccountsFor (Text.lines text.toList) ∧
      Document.read (.text text) =
        .ok (Document.ofText text,
          [.scenarioParsed (Document.ofText text).title (Document.ofText text).scenes.length
            ((Text.lines text.toList).countP isStructural)]) ∧
      (Document.ofText text).scenes.length + (Text.lines text.toList).countP isStructural =
        (Text.lines text.toList).length := by
  have hlength := length_scenesFrom 1 1 (Text.lines text.toList)
  have hskipped : (Text.lines text.toList).length - (Document.ofText text).scenes.length =
      (Text.lines text.toList).countP isStructural := by
    rw [← hlength]
    exact Nat.add_sub_cancel_left ..
  refine ⟨Document.ofText_accountsFor text, ?_, hlength⟩
  rw [← hskipped]
  rfl

/-- The second line for a title is structural too, though it says nothing. -/
example :
    (Document.ofText "タイトル： 夜\n【背景】 海\n\nタイトル：朝\n太郎\n---").title = "夜" ∧
      (Document.ofText "タイトル： 夜\n【背景】 海\n\nタイトル：朝\n太郎\n---").scenes.map Scene.lineNumber =
        [2, 5] := by
  decide

end Daihon.Script

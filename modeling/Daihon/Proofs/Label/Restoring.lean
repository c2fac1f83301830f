import Daihon.Proofs.Label.Plans
import Daihon.Proofs.Script.Canonical
import Daihon.Proofs.Text.Lines

/-!
# A document determines its script

The canonical script of a document that was read from a script gives the document back, and the plans of
the script (`document_determines_script`): only the lines that scenes and plans come from are counted anew,
from the third line on and without gaps.

The canonical lines are read back one by one (`content?_line`), which carries over to rows of lines by
induction on the row that the scenes come from (`scenesFrom_map_line`, `plansFrom_map_line`).
-/

namespace Daihon

open Script Label

namespace Script

/-- The scene as it comes from another line. -/
def Scene.atLine (lineNumber : Nat) (scene : Scene) : Scene :=
  { scene with lineNumber := lineNumber }

theorem Content.atLine_scene (c : Content) (line : List Char) (number lineNumber m : Nat) :
    (c.scene line number lineNumber).atLine m = c.scene line number m := by
  cases c with
  | directive d =>
    obtain ⟨kind, value⟩ := d
    cases kind <;> rfl
  | speech s => rfl

/-! ### Scenes -/

theorem scenesFrom_map_line (number lineNumber m : Nat) (ls : List (List Char)) :
    scenesFrom number m ((scenesFrom number lineNumber ls).map Scene.line) =
      (scenesFrom number lineNumber ls).mapIdx fun i scene => scene.atLine (m + i) := by
  induction ls generalizing number lineNumber m with
  | nil => rfl
  | cons line ls ih =>
    cases h : content? line with
    | none =>
      rw [scenesFrom_cons_of_none _ _ _ h]
      exact ih number (lineNumber + 1) m
    | some c =>
      rw [scenesFrom_cons_of_some _ _ _ h, List.map_cons, c.line_scene,
        scenesFrom_cons_of_some _ _ _ (content?_line h).1, ih, List.mapIdx_cons, c.scene_line,
        Content.atLine_scene]
      simp only [Nat.add_zero, Nat.add_assoc, Nat.add_comm 1]

/-- Every scene comes from one of the lines. -/
theorem exists_of_mem_scenesFrom {number lineNumber : Nat} {ls : List (List Char)} {scene : Scene}
    (h : scene ∈ scenesFrom number lineNumber ls) :
    ∃ line ∈ ls, ∃ c, content? line = some c ∧ scene.line = c.line line := by
  obtain ⟨i, hi⟩ := List.mem_iff_getElem?.mp h
  obtain ⟨m, line, c, hline, hc, rfl⟩ := exists_of_getElem?_scenesFrom hi
  exact ⟨line, List.mem_of_getElem? hline, c, hc, c.line_scene ..⟩

/-! ### Headers -/

theorem header_trimmed (mark : List Char) (ls : List (List Char)) :
    Text.trim (header mark ls).toList = (header mark ls).toList := by
  induction ls with
  | nil => rfl
  | cons line ls ih =>
    unfold header
    split
    · simp
    · exact ih

theorem exists_of_mem_header {mark : List Char} {ls : List (List Char)} {c : Char}
    (h : c ∈ (header mark ls).toList) : ∃ line ∈ ls, c ∈ line := by
  induction ls with
  | nil => simp [header] at h
  | cons line ls ih =>
    unfold header at h
    split at h
    · next rest hafter =>
      have hc : c ∈ Text.trim line := by
        rw [Text.after?_eq_some_iff.mp hafter]
        exact List.mem_append_right _ (Text.mem_of_mem_trim (by simpa using h))
      exact ⟨line, List.mem_cons_self, Text.mem_of_mem_trim hc⟩
    · obtain ⟨l, hl, hc⟩ := ih h
      exact ⟨l, List.mem_cons_of_mem _ hl, hc⟩

theorem trim_mark_append_header {mark : List Char} (h : Text.trim mark = mark) (hne : mark ≠ [])
    (ls : List (List Char)) :
    Text.trim (mark ++ (header mark ls).toList) = mark ++ (header mark ls).toList :=
  Text.trim_append_of_trimmed h hne (header_trimmed mark ls)

/-- The line written for a header is read back, whatever lines follow. -/
theorem header_mark_append_header {mark : List Char} (h : Text.trim mark = mark) (hne : mark ≠ [])
    (ls rest : List (List Char)) :
    header mark ((mark ++ (header mark ls).toList) :: rest) = header mark ls := by
  have hafter : Text.after? mark (mark ++ (header mark ls).toList) = some (header mark ls).toList :=
    Text.after?_eq_some_iff.mpr rfl
  rw [header, trim_mark_append_header h hne, hafter]
  simp only [header_trimmed, String.ofList_toList]

/-! ### The canonical script of a document -/

namespace Document

variable (text : String)

/-- The lines of the canonical script look like lines. -/
theorem scriptLines_ofText {line : List Char} (h : line ∈ (ofText text).scriptLines) :
    '\n' ∉ line ∧ line.getLast? ≠ some '\r' := by
  have hheader {mark : List Char} (hfeed : '\n' ∉ mark) :
      '\n' ∉ mark ++ (header mark (Text.lines text.toList)).toList := by
    rw [List.mem_append, not_or]
    refine ⟨hfeed, fun hc => ?_⟩
    obtain ⟨l, hl, hc⟩ := exists_of_mem_header hc
    exact Text.lineFeed_notMem_of_mem_lines hl hc
  have hline : '\n' ∉ line ∧ Text.trim line = line := by
    rcases List.mem_cons.mp h with rfl | h
    · exact ⟨hheader (by decide), trim_mark_append_header (by decide) (by decide) _⟩
    rcases List.mem_cons.mp h with rfl | h
    · exact ⟨hheader (by decide), trim_mark_append_header (by decide) (by decide) _⟩
    obtain ⟨scene, hscene, rfl⟩ := List.mem_map.mp h
    obtain ⟨l, hl, c, hc, hsl⟩ := exists_of_mem_scenesFrom hscene
    rw [hsl]
    exact ⟨lineFeed_notMem_line hc (Text.lineFeed_notMem_of_mem_lines hl), (content?_line hc).2⟩
  -- a trimmed line ends with no blank, a carriage return included
  refine ⟨hline.1, fun hreturn => ?_⟩
  have := (Text.trim_eq_self_iff.mp hline.2).2 '\r' hreturn
  exact absurd this (by decide)

theorem lines_script : Text.lines (ofText text).script.toList = (ofText text).scriptLines := by
  rw [script, String.toList_ofList]
  exact Text.lines_unlines fun line h => scriptLines_ofText text h

theorem content?_titleLine : content? (titleMark ++ (ofText text).title.toList) = none := by
  rw [content?, speech?, isStructural, directive?, ofText, ofLines,
    trim_mark_append_header (by decide) (by decide)]
  rfl

theorem content?_chapterLine : content? (chapterMark ++ (ofText text).chapter.toList) = none := by
  rw [content?, speech?, isStructural, directive?, ofText, ofLines,
    trim_mark_append_header (by decide) (by decide)]
  rfl

theorem title_ofText_script : (ofText (ofText text).script).title = (ofText text).title := by
  have htitle : (ofText text).title = header titleMark (Text.lines text.toList) := rfl
  rw [ofText, lines_script, ofLines, scriptLines, htitle, header_mark_append_header (by decide) (by decide)]

theorem chapter_ofText_script : (ofText (ofText text).script).chapter = (ofText text).chapter := by
  have hchapter : (ofText text).chapter = header chapterMark (Text.lines text.toList) := rfl
  -- the line for the title comes first, and it is no line for the chapter
  have hskip (rest : List (List Char)) :
      header chapterMark ((titleMark ++ (ofText text).title.toList) :: rest) = header chapterMark rest := by
    rw [header, ofText, ofLines, trim_mark_append_header (by decide) (by decide)]
    rfl
  rw [ofText, lines_script, ofLines, scriptLines, hskip, hchapter,
    header_mark_append_header (by decide) (by decide)]

theorem scenes_ofText_script :
    (ofText (ofText text).script).scenes =
      (ofText text).scenes.mapIdx fun i scene => scene.atLine (i + 3) := by
  have hscenes := scenesFrom_map_line 1 1 3 (Text.lines text.toList)
  simp only [Nat.add_comm 3] at hscenes
  rw [ofText, lines_script, ofLines, scriptLines]
  simp only [scenesFrom_cons_of_none _ _ _ (content?_titleLine text),
    scenesFrom_cons_of_none _ _ _ (content?_chapterLine text)]
  exact hscenes

end Document

end Script

/-! ### Plans -/

namespace Label

/-- The plan as it comes from another line. -/
def Plan.atLine (lineNumber : Nat) (plan : Plan) : Plan :=
  { plan with lineNumber := lineNumber }

theorem atLine_planFor (index lineNumber m : Nat) (speaker : String) (c : Content) :
    (planFor index lineNumber speaker c).atLine m = planFor index m speaker c := by
  cases c <;> rfl

theorem plansFrom_map_line (index lineNumber m number sceneLine : Nat) (speaker : String)
    (ls : List (List Char)) :
    plansFrom index m speaker ((scenesFrom number sceneLine ls).map Scene.line) =
      (plansFrom index lineNumber speaker ls).mapIdx fun i plan => plan.atLine (m + i) := by
  induction ls generalizing index lineNumber m number sceneLine speaker with
  | nil => rfl
  | cons line ls ih =>
    cases h : content? line with
    | none =>
      rw [scenesFrom_cons_of_none _ _ _ h, plansFrom_cons_of_none _ _ _ _ h]
      exact ih index (lineNumber + 1) m number (sceneLine + 1) speaker
    | some c =>
      rw [scenesFrom_cons_of_some _ _ _ h, plansFrom_cons_of_some _ _ _ _ h, List.map_cons, c.line_scene,
        plansFrom_cons_of_some _ _ _ _ (content?_line h).1, ih (index + 1) (lineNumber + 1),
        List.mapIdx_cons, atLine_planFor]
      simp only [Nat.add_zero, Nat.add_assoc, Nat.add_comm 1]

theorem plansOf_script (text : String) :
    plansOf (Document.ofText text).script =
      (plansOf text).mapIdx fun i plan => plan.atLine (i + 3) := by
  have hplans := plansFrom_map_line 0 1 3 1 1 "" (Text.lines text.toList)
  simp only [Nat.add_comm 3] at hplans
  rw [plansOf, Document.lines_script, Document.scriptLines,
    plansFrom_cons_of_none _ _ _ _ (Document.content?_titleLine text),
    plansFrom_cons_of_none _ _ _ _ (Document.content?_chapterLine text)]
  exact hplans

end Label

/-- **A document determines its script.**  The canonical script of a document reads back as the document,
and it has the plans of the script that the document was read from: title, chapter, scenes and plans are
the same, but that the scenes and plans now come from the third line on, one from each. -/
theorem document_determines_script (text : String) :
    Document.ofText (Document.ofText text).script =
        { Document.ofText text with
          scenes := (Document.ofText text).scenes.mapIdx fun i scene => scene.atLine (i + 3) } ∧
      plansOf (Document.ofText text).script =
        (plansOf text).mapIdx fun i plan => plan.atLine (i + 3) := by
  refine ⟨?_, plansOf_script text⟩
  have htitle := Document.title_ofText_script text
  have hchapter := Document.chapter_ofText_script text
  have hscenes := Document.scenes_ofText_script text
  cases hdoc : Document.ofText (Document.ofText text).script with
  | mk title chapter scenes =>
    rw [hdoc] at htitle hchapter hscenes
    rw [Document.mk.injEq]
    exact ⟨htitle, hchapter, hscenes⟩

/-- Without the mark in front, the name of this monologue would be a directive. -/
example :
    (Document.ofText "海（モノローグ）\n（モノローグ）【背景】海").script =
      "タイトル：\n章：\n（モノローグ）海\n（モノローグ）【背景】海\n" := by
  decide

end Daihon

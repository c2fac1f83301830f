import Daihon.Proofs.Label.Plans
import Daihon.Proofs.Script.Scenes
import Daihon.Proofs.Text.Lines

/-!
# Scripts behind one another

A script of whole lines and a script behind it are read one after the other: lines, scenes and plans of
the joined script are those of the first followed by those of the second, counted on from the first
(`Document.scenes_ofText_append`, `plansOf_append`).  Of headers the first one counts.
-/

namespace Daihon

open Script Label

namespace Script.Document

variable {a : String} (h : Text.WholeLines a.toList) (b : String)
include h

theorem scenes_ofText_append :
    (ofText (a ++ b)).scenes =
      (ofText a).scenes ++ (ofText b).scenes.map
        (Scene.advance (ofText a).scenes.length (Text.splitLines a).length) := by
  simp only [ofText, ofLines, Text.length_splitLines]
  rw [String.toList_append, Text.lines_append h, scenesFrom_append, ← scenesFrom_advance, Nat.add_comm 1,
    Nat.add_comm 1]

theorem title_ofText_append :
    (ofText (a ++ b)).title =
      if (Text.lines a.toList).any (isHeader titleMark) then (ofText a).title else (ofText b).title := by
  simp only [ofText, ofLines]
  rw [String.toList_append, Text.lines_append h, header_append]

theorem chapter_ofText_append :
    (ofText (a ++ b)).chapter =
      if (Text.lines a.toList).any (isHeader chapterMark) then (ofText a).chapter
      else (ofText b).chapter := by
  simp only [ofText, ofLines]
  rw [String.toList_append, Text.lines_append h, header_append]

end Script.Document

theorem Label.plansOf_append {a : String} (h : Text.WholeLines a.toList) (b : String) :
    plansOf (a ++ b) =
      plansOf a ++ (plansOf b).map
        (Plan.follow (plansOf a).length (Text.splitLines a).length (lastSpeaker "" (plansOf a))) := by
  -- nobody speaks before the second script, so whoever spoke last in the first goes on speaking
  have hfollow (k m : Nat) (speaker : String) (ls : List (List Char)) :
      plansFrom (0 + k) (1 + m) speaker ls = (plansFrom 0 1 "" ls).map (Plan.follow k m speaker) :=
    plansFrom_follow 0 1 k m speaker "" ls
  simp only [plansOf, Text.length_splitLines]
  rw [String.toList_append, Text.lines_append h, plansFrom_append, hfollow]

/-- **Scripts behind one another.**  Behind a script of whole lines, the lines, scenes and plans of a script
are its own, counted on and spoken on from the first; title and chapter are those of the first script,
even empty ones, if it has a line for them. -/
theorem joined_script (a b : String) (h : Text.WholeLines a.toList) :
    Text.splitLines (a ++ b) = Text.splitLines a ++ Text.splitLines b ∧
      (Document.ofText (a ++ b)).scenes =
        (Document.ofText a).scenes ++ (Document.ofText b).scenes.map
          (Scene.advance (Document.ofText a).scenes.length (Text.splitLines a).length) ∧
      (Document.ofText (a ++ b)).title =
        (if (Text.lines a.toList).any (isHeader titleMark) then (Document.ofText a).title
          else (Document.ofText b).title) ∧
      (Document.ofText (a ++ b)).chapter =
        (if (Text.lines a.toList).any (isHeader chapterMark) then (Document.ofText a).chapter
          else (Document.ofText b).chapter) ∧
      plansOf (a ++ b) =
        plansOf a ++ (plansOf b).map
          (Plan.follow (plansOf a).length (Text.splitLines a).length (lastSpeaker "" (plansOf a))) :=
  ⟨Text.splitLines_append h b, Document.scenes_ofText_append h b, Document.title_ofText_append h b,
    Document.chapter_ofText_append h b, plansOf_append h b⟩

/-- An empty title counts, the lines and scenes of the second script are counted on, and the speaker of the
first script speaks its line. -/
theorem joined_script_empty_title :
    Text.WholeLines "タイトル：\n太郎\n".toList ∧
      Text.splitLines ("タイトル：\n太郎\n" ++ "タイトル：夜\n「やあ」") =
        ["タイトル：", "太郎", "タイトル：夜", "「やあ」"] ∧
      (Document.ofText ("タイトル：\n太郎\n" ++ "タイトル：夜\n「やあ」")).scenes.map
          (fun scene => (scene.id, scene.content, scene.number, scene.lineNumber, scene.character)) =
        [("scene_1", "", 1, 2, some "太郎"), ("scene_2", "やあ", 2, 4, some "")] ∧
      (Document.ofText ("タイトル：\n太郎\n" ++ "タイトル：夜\n「やあ」")).title = "" ∧
      plansOf ("タイトル：\n太郎\n" ++ "タイトル：夜\n「やあ」") =
        [⟨0, .dialogue, "", "太郎", 2⟩, ⟨1, .dialogue, "やあ", "太郎", 4⟩] := by
  obtain ⟨hlines, hscenes, htitle, -, hplans⟩ :=
    joined_script "タイトル：\n太郎\n" "タイトル：夜\n「やあ」" (by decide)
  exact ⟨by decide, hlines.trans (by decide), by rw [hscenes]; decide, htitle.trans (by decide),
    hplans.trans (by decide)⟩

end Daihon

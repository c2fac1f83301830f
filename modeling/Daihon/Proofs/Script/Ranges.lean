import Daihon.Proofs.Script.Origins
import Daihon.Proofs.Text.Endings
import Daihon.Proofs.Text.Ranges

/-!
# Scenes of ranges of lines

The scenes with line numbers in a range are the scenes of the lines in the range, counted anew
(`mapIdx_recount_filter_inRange`), and lines that are put together make their own scenes
(`scenes_ofText_joined`).

Along a row of lines, the scenes up to a line are the scenes of the lines up to it
(`filter_le_scenesFrom`), and the scenes behind a line are the scenes of the lines behind it, but for how
they are counted (`filter_lt_scenesFrom`).
-/

namespace Daihon.Script

/-- The scene as it is counted when so many lines before it are left out. -/
def Scene.recount (number : Nat) (left : Int) (scene : Scene) : Scene :=
  { scene with
    id := s!"scene_{number}"
    number := number
    lineNumber := scene.lineNumber - left }

/-- The scenes of a document with line numbers in a range, counted anew. -/
def Document.scenesWithin (doc : Document) (start : Int) (stop : Option Int) : List Scene :=
  (doc.scenes.filter fun scene => Text.InRange start stop scene.lineNumber).mapIdx
    fun i scene => scene.recount (i + 1) (start - 1)

/-- Lines put together to a script, with line feeds between them. -/
def joined (ls : List String) : String :=
  .ofList (Text.joinLines (ls.map String.toList))

/-! ### Scenes counted anew -/

theorem Content.recount_scene (c : Content) (line : List Char) (number number' lineNumber k : Nat) :
    (c.scene line number (lineNumber + k)).recount number' k = c.scene line number' lineNumber := by
  have hline : ((lineNumber + k : Nat) : Int) - k = lineNumber := by omega
  cases c with
  | directive d =>
    obtain ⟨kind, value⟩ := d
    cases kind <;> simp only [Content.scene, Directive.scene, Scene.recount, hline]
  | speech s => simp only [Content.scene, Speech.scene, Scene.recount, hline]

theorem mapIdx_recount_scenesFrom (number number' lineNumber k : Nat) (ls : List (List Char)) :
    (scenesFrom number (lineNumber + k) ls).mapIdx (fun i scene => scene.recount (number' + i) k) =
      scenesFrom number' lineNumber ls := by
  induction ls generalizing number number' lineNumber with
  | nil => rfl
  | cons line ls ih =>
    cases hc : content? line with
    | none =>
      rw [scenesFrom_cons_of_none _ _ _ hc, scenesFrom_cons_of_none _ _ _ hc, Nat.add_right_comm]
      exact ih number number' (lineNumber + 1)
    | some c =>
      have htail := ih (number + 1) (number' + 1) (lineNumber + 1)
      simp only [Nat.add_assoc, Nat.add_comm 1] at htail
      rw [scenesFrom_cons_of_some _ _ _ hc, scenesFrom_cons_of_some _ _ _ hc, List.mapIdx_cons,
        Nat.add_zero, c.recount_scene]
      simp only [Nat.add_assoc, htail]

/-! ### Scenes of the lines in a range -/

theorem le_lineNumber_of_mem_scenesFrom {number lineNumber : Nat} {ls : List (List Char)} {scene : Scene}
    (h : scene ∈ scenesFrom number lineNumber ls) : (lineNumber : Int) ≤ scene.lineNumber := by
  obtain ⟨i, hi⟩ := List.mem_iff_getElem?.mp h
  obtain ⟨m, line, c, -, -, rfl⟩ := exists_of_getElem?_scenesFrom hi
  rw [Content.lineNumber_scene]
  omega

theorem filter_le_scenesFrom (number m k : Nat) (ls : List (List Char)) :
    (scenesFrom number (m + 1) ls).filter (fun scene => scene.lineNumber ≤ ((m + k : Nat) : Int)) =
      scenesFrom number (m + 1) (ls.take k) := by
  induction ls generalizing number m k with
  | nil => simp [scenesFrom]
  | cons line ls ih =>
    cases k with
    | zero =>
      refine List.filter_eq_nil_iff.mpr fun scene h => ?_
      have hlow := le_lineNumber_of_mem_scenesFrom h
      simp only [decide_eq_true_eq]
      omega
    | succ k =>
      have htail (number : Nat) := ih number (m + 1) k
      rw [Nat.add_assoc m 1 k, Nat.add_comm 1 k] at htail
      rw [List.take_succ_cons]
      cases hc : content? line with
      | none => rw [scenesFrom_cons_of_none _ _ _ hc, scenesFrom_cons_of_none _ _ _ hc, htail]
      | some c =>
        have hkeep : (c.scene line number (m + 1)).lineNumber ≤ ((m + (k + 1) : Nat) : Int) := by
          rw [Content.lineNumber_scene]
          omega
        rw [scenesFrom_cons_of_some _ _ _ hc, scenesFrom_cons_of_some _ _ _ hc, List.filter_cons,
          if_pos (decide_eq_true hkeep), htail]

theorem filter_lt_scenesFrom (number m k : Nat) (ls : List (List Char)) :
    ∃ number',
      (scenesFrom number (m + 1) ls).filter (fun scene => ((m + k : Nat) : Int) < scene.lineNumber) =
        scenesFrom number' (m + k + 1) (ls.drop k) := by
  induction ls generalizing number m k with
  | nil => exact ⟨number, by simp [scenesFrom]⟩
  | cons line ls ih =>
    cases k with
    | zero =>
      refine ⟨number, List.filter_eq_self.mpr fun scene h => ?_⟩
      have hlow := le_lineNumber_of_mem_scenesFrom h
      simp only [decide_eq_true_eq]
      omega
    | succ k =>
      have htail (number : Nat) := ih number (m + 1) k
      rw [Nat.add_assoc m 1 k, Nat.add_comm 1 k] at htail
      rw [List.drop_succ_cons]
      cases hc : content? line with
      | none =>
        rw [scenesFrom_cons_of_none _ _ _ hc]
        exact htail number
      | some c =>
        have hskip : ¬((m + (k + 1) : Nat) : Int) < (c.scene line number (m + 1)).lineNumber := by
          rw [Content.lineNumber_scene]
          omega
        rw [scenesFrom_cons_of_some _ _ _ hc, List.filter_cons, if_neg (by rwa [decide_eq_true_eq])]
        exact htail (number + 1)

section IsRange

variable {start : Int} {stop : Option Int} (h : Text.IsRange start stop) (ls : List (List Char))
include h

/-- The scenes with line numbers in a range are the scenes of its lines, counted from later on. -/
theorem exists_filter_inRange_scenesFrom :
    ∃ number, (scenesFrom 1 1 ls).filter (fun scene => Text.InRange start stop scene.lineNumber) =
      scenesFrom number (1 + (start - 1).toNat) (Text.between start stop ls) := by
  have hstart := h.1
  have hlow (n : Int) : start ≤ n ↔ ((0 + (start - 1).toNat : Nat) : Int) < n := by omega
  have hupTo : (scenesFrom 1 1 ls).filter (fun scene => ∀ m ∈ stop, scene.lineNumber ≤ m) =
      scenesFrom 1 1 (Text.upTo stop ls) := by
    cases stop with
    | none => simp [Text.upTo]
    | some m =>
      have hstop := h.2 m rfl
      have hhigh (n : Int) : n ≤ m ↔ n ≤ ((0 + m.toNat : Nat) : Int) := by omega
      rw [Text.upTo, Option.elim_some, ← filter_le_scenesFrom 1 0 m.toNat ls]
      simp only [Option.mem_def, Option.some.injEq, forall_eq', hhigh]
  obtain ⟨number, hnumber⟩ := filter_lt_scenesFrom 1 0 (start - 1).toNat (Text.upTo stop ls)
  refine ⟨number, ?_⟩
  rw [Nat.zero_add (start - 1).toNat] at hnumber hlow
  rw [Text.between_eq_drop_upTo h, Nat.add_comm 1, ← hnumber, ← hupTo, List.filter_filter]
  simp only [Text.InRange, hlow, Bool.decide_and]

theorem mapIdx_recount_filter_inRange :
    ((scenesFrom 1 1 ls).filter fun scene => Text.InRange start stop scene.lineNumber).mapIdx
        (fun i scene => scene.recount (i + 1) (start - 1)) =
      scenesFrom 1 1 (Text.between start stop ls) := by
  have hstart := h.1
  obtain ⟨number, hnumber⟩ := exists_filter_inRange_scenesFrom h ls
  have hleft : start - 1 = ((start - 1).toNat : Int) := by omega
  have hrecount := mapIdx_recount_scenesFrom number 1 1 (start - 1).toNat (Text.between start stop ls)
  simp only [Nat.add_comm 1] at hrecount hnumber
  rw [hnumber, hleft]
  exact hrecount

end IsRange

/-! ### Scenes of lines put together -/

theorem scenesFrom_dropEmptyLast (number lineNumber : Nat) (ls : List (List Char)) :
    scenesFrom number lineNumber (Text.dropEmptyLast ls) = scenesFrom number lineNumber ls := by
  unfold Text.dropEmptyLast
  split
  · next hlast =>
    obtain ⟨init, rfl⟩ := List.getLast?_eq_some_iff.mp hlast
    have hempty (number lineNumber : Nat) : scenesFrom number lineNumber [[]] = [] := rfl
    rw [List.dropLast_concat, scenesFrom_append, hempty, List.append_nil]
  · rfl

theorem scenesFrom_map_dropReturn (number lineNumber : Nat) (ls : List (List Char)) :
    scenesFrom number lineNumber (ls.map Text.dropReturn) = scenesFrom number lineNumber ls := by
  rw [← scenesFrom_map_trim, List.map_map, ← scenesFrom_map_trim number lineNumber ls]
  congr 2
  funext line
  exact Text.trim_dropReturn line

/-- Lines that are put together make their own scenes. -/
theorem scenes_ofText_joined {ls : List (List Char)} (h : ∀ line ∈ ls, '\n' ∉ line) :
    (Document.ofText (joined (ls.map String.ofList))).scenes = scenesFrom 1 1 ls := by
  have hls : (ls.map String.ofList).map String.toList = ls := by
    simp [Function.comp_def]
  rw [Document.ofText, joined, hls, String.toList_ofList, Text.lines_joinLines h, Document.ofLines,
    scenesFrom_map_dropReturn, scenesFrom_dropEmptyLast]

end Daihon.Script

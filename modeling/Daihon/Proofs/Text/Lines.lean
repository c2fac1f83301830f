import Daihon.Text.Lines

/-!
# Cutting a text into lines

A text of whole lines is empty or ends with a line feed.  Cutting such a text together with any text
behind it gives the lines of the one followed by the lines of the other (`lines_append`): the empty
piece behind the last line feed is what the text behind continues.  Lines without a line feed or a final
carriage return, each written with a line feed, are read back (`lines_unlines`).
-/

namespace Daihon.Text

/-- Whether a text is made of whole lines: it is empty or ends with a line feed. -/
def WholeLines (s : List Char) : Prop := s = [] ∨ s.getLast? = some '\n'

instance : DecidablePred WholeLines := fun s => inferInstanceAs (Decidable (s = [] ∨ _))

theorem WholeLines.eq_append {s : List Char} (h : WholeLines s) (hs : s ≠ []) :
    ∃ init, s = init ++ ['\n'] := by
  rcases h with h | h
  · exact absurd h hs
  · exact List.getLast?_eq_some_iff.mp h

/-! ### Pieces -/

theorem pieces_ne_nil (s : List Char) : pieces s ≠ [] := by
  cases s with
  | nil => simp [pieces]
  | cons c s =>
    unfold pieces
    split
    · simp
    · split <;> simp

theorem pieces_append_lineFeed (a b : List Char) :
    pieces (a ++ '\n' :: b) = pieces a ++ pieces b := by
  induction a with
  | nil => simp [pieces]
  | cons c a ih =>
    by_cases hc : c = '\n'
    · simp [pieces, hc, ih]
    · obtain ⟨p, ps, hp⟩ := List.exists_cons_of_ne_nil (pieces_ne_nil a)
      simp [pieces, hc, ih, hp]

theorem dropEmptyLast_append (ps : List (List Char)) {qs : List (List Char)} (h : qs ≠ []) :
    dropEmptyLast (ps ++ qs) = ps ++ dropEmptyLast qs := by
  obtain ⟨q, hq⟩ := Option.isSome_iff_exists.mp (List.getLast?_isSome.mpr h)
  unfold dropEmptyLast
  rw [List.getLast?_append, hq, Option.some_or, List.dropLast_append_of_ne_nil h]
  split <;> rfl

/-! ### Lines -/

@[simp] theorem lines_nil : lines [] = [] := rfl

theorem lines_append_lineFeed (a b : List Char) :
    lines (a ++ '\n' :: b) = (pieces a).map dropReturn ++ lines b := by
  unfold lines
  rw [pieces_append_lineFeed, dropEmptyLast_append _ (pieces_ne_nil b), List.map_append]

/-- **Lines of joined texts.**  Behind whole lines, a text keeps its own lines. -/
theorem lines_append {a : List Char} (h : WholeLines a) (b : List Char) :
    lines (a ++ b) = lines a ++ lines b := by
  by_cases ha : a = []
  · simp [ha]
  · obtain ⟨init, rfl⟩ := h.eq_append ha
    have hinit : lines (init ++ ['\n']) = (pieces init).map dropReturn := by
      simpa using lines_append_lineFeed init []
    rw [hinit, List.append_assoc, List.singleton_append, lines_append_lineFeed]

theorem splitLines_append {a : String} (h : WholeLines a.toList) (b : String) :
    splitLines (a ++ b) = splitLines a ++ splitLines b := by
  unfold splitLines
  rw [String.toList_append, lines_append h, List.map_append]

theorem lineFeed_notMem_of_mem_pieces {s p : List Char} (h : p ∈ pieces s) : '\n' ∉ p := by
  induction s generalizing p with
  | nil => simp_all [pieces]
  | cons c s ih =>
    by_cases hc : c = '\n'
    · rw [pieces, if_pos hc] at h
      rcases List.mem_cons.mp h with rfl | h
      · exact List.not_mem_nil
      · exact ih h
    · obtain ⟨q, qs, hq⟩ := List.exists_cons_of_ne_nil (pieces_ne_nil s)
      rw [pieces, if_neg hc, hq] at h
      rcases List.mem_cons.mp h with rfl | h
      · have := ih (hq ▸ List.mem_cons_self)
        simp [this, Ne.symm hc]
      · exact ih (hq ▸ List.mem_cons_of_mem _ h)

theorem lineFeed_notMem_of_mem_lines {s line : List Char} (h : line ∈ lines s) : '\n' ∉ line := by
  obtain ⟨p, hp, rfl⟩ := List.mem_map.mp h
  have hp' : p ∈ pieces s := by
    unfold dropEmptyLast at hp
    split at hp
    · exact List.dropLast_subset _ hp
    · exact hp
  have hn := lineFeed_notMem_of_mem_pieces hp'
  unfold dropReturn
  split
  · exact fun hmem => hn (List.dropLast_subset _ hmem)
  · exact hn

theorem pieces_of_lineFeed_notMem {s : List Char} (h : '\n' ∉ s) : pieces s = [s] := by
  induction s with
  | nil => rfl
  | cons c s ih =>
    rw [List.mem_cons, not_or] at h
    rw [pieces, if_neg (Ne.symm h.1), ih h.2]

/-- **Lines written with line feeds are read back**, provided that they look like lines: they hold no line
feed and end with no carriage return. -/
theorem lines_unlines {ls : List (List Char)}
    (h : ∀ line ∈ ls, '\n' ∉ line ∧ line.getLast? ≠ some '\r') : lines (unlines ls) = ls := by
  induction ls with
  | nil => rfl
  | cons line ls ih =>
    obtain ⟨hline, hreturn⟩ := h line List.mem_cons_self
    have hls := ih fun l hl => h l (List.mem_cons_of_mem _ hl)
    have hunlines : unlines (line :: ls) = line ++ '\n' :: unlines ls := by simp [unlines]
    rw [hunlines, lines_append_lineFeed, pieces_of_lineFeed_notMem hline, hls]
    simp [dropReturn, hreturn]

@[simp] theorem length_splitLines (s : String) : (splitLines s).length = (lines s.toList).length :=
  List.length_map _

end Daihon.Text

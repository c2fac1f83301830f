import Daihon.Proofs.Text.Lines
import Daihon.Proofs.Text.Trimming

/-!
# Line by line through a text

A text is gone through line by line with `line_induction`: it holds no line feed, or it is a line, a line
feed and a text.  In this way a carriage return put in front of every line feed is seen to change no line
but for a blank at its end (`map_trim_lines_withReturns`).
-/

namespace Daihon.Text

/-- A property of texts holds if it holds of texts without line feeds, and of a line with a line feed in
front of a text that has it. -/
@[elab_as_elim]
theorem line_induction {motive : List Char → Prop} (last : ∀ s, '\n' ∉ s → motive s)
    (line : ∀ l s, '\n' ∉ l → motive s → motive (l ++ '\n' :: s)) (s : List Char) : motive s := by
  by_cases h : '\n' ∈ s
  · obtain ⟨l, rest, hs, hl⟩ := List.eq_append_cons_of_mem h
    have hshorter : rest.length < s.length := by
      rw [hs, List.length_append, List.length_cons]
      omega
    rw [hs]
    exact line l rest hl (line_induction last line rest)
  · exact last s h
termination_by s.length

theorem lines_append_of_lineFeed_notMem {l : List Char} (h : '\n' ∉ l) (s : List Char) :
    lines (l ++ '\n' :: s) = dropReturn l :: lines s := by
  rw [lines_append_lineFeed, pieces_of_lineFeed_notMem h]
  rfl

/-! ### Carriage returns -/

@[simp] theorem dropReturn_append_return (l : List Char) : dropReturn (l ++ ['\r']) = l := by
  simp [dropReturn]

@[simp] theorem trim_dropReturn (l : List Char) : trim (dropReturn l) = trim l := by
  unfold dropReturn
  split
  · next h =>
    obtain ⟨init, rfl⟩ := List.getLast?_eq_some_iff.mp h
    rw [List.dropLast_concat, trim_append_right (by decide)]
  · rfl

/-- A text with a carriage return put in front of every line feed. -/
def withReturns (s : List Char) : List Char :=
  s.flatMap fun c => if c = '\n' then ['\r', '\n'] else [c]

theorem withReturns_of_lineFeed_notMem {s : List Char} (h : '\n' ∉ s) : withReturns s = s := by
  have hkeep : ∀ c ∈ s, (if c = '\n' then ['\r', '\n'] else [c]) = [c] := by
    intro c hc
    rw [if_neg]
    rintro rfl
    exact h hc
  rw [withReturns, List.flatMap_congr hkeep, List.flatMap_singleton']

theorem withReturns_append_lineFeed {l : List Char} (h : '\n' ∉ l) (s : List Char) :
    withReturns (l ++ '\n' :: s) = (l ++ ['\r']) ++ '\n' :: withReturns s := by
  have hsplit : withReturns (l ++ '\n' :: s) = withReturns l ++ ['\r', '\n'] ++ withReturns s := by
    simp [withReturns]
  rw [hsplit, withReturns_of_lineFeed_notMem h]
  simp

/-- **Carriage returns in front of line feeds** only add a blank at the end of lines. -/
theorem map_trim_lines_withReturns (s : List Char) :
    (lines (withReturns s)).map trim = (lines s).map trim := by
  induction s using line_induction with
  | last s h => rw [withReturns_of_lineFeed_notMem h]
  | line l s h ih =>
    have hreturn : '\n' ∉ l ++ ['\r'] := by simpa using h
    rw [withReturns_append_lineFeed h, lines_append_of_lineFeed_notMem hreturn,
      lines_append_of_lineFeed_notMem h, List.map_cons, List.map_cons, ih, dropReturn_append_return,
      trim_dropReturn]

end Daihon.Text

import Daihon.Proofs.Text.Endings

/-!
# Writing lines

Lines that are written one behind another, each with an ending of its own, are read back
(`splitLines_writing_append`), whichever of the two endings each of them has: a carriage return that stands
at the end of a line is kept by the one that the ending puts behind it.

The other way round nothing is lost of a text without carriage returns: its lines put together, with a
line feed behind them if there was one, are the text (`intercalate_lines`).
-/

namespace Daihon.Text

/-- Whether an ending suits a line: a line that ends with a carriage return needs another one in front of
the line feed. -/
def Ending.Suits (ending : Ending) (line : List Char) : Prop :=
  line.getLast? = some '\r' → ending = .returnLineFeed

/-- The lines written one behind another, each with the ending chosen for it. -/
def writing (ls : List (String × Ending)) : String :=
  .join (ls.map fun e => e.1 ++ .ofList e.2.chars)

theorem toList_writing (ls : List (String × Ending)) :
    (writing ls).toList = writeLines (ls.map fun e => (e.1.toList, e.2)) := by
  simp [writing, writeLines, List.flatMap_map]

/-! ### Lines that were written -/

theorem lines_append_ending {line : List Char} {ending : Ending} (hline : '\n' ∉ line)
    (hsuits : ending.Suits line) (s : List Char) :
    lines (line ++ ending.chars ++ s) = line :: lines s := by
  cases ending with
  | lineFeed =>
    have hreturn : line.getLast? ≠ some '\r' := fun h => nomatch hsuits h
    rw [Ending.chars, List.append_assoc, List.singleton_append, lines_append_of_lineFeed_notMem hline,
      dropReturn, if_neg hreturn]
  | returnLineFeed =>
    have hwith : '\n' ∉ line ++ ['\r'] := by simpa using hline
    have hsplit : line ++ Ending.returnLineFeed.chars ++ s = (line ++ ['\r']) ++ '\n' :: s := by
      simp [Ending.chars]
    rw [hsplit, lines_append_of_lineFeed_notMem hwith, dropReturn_append_return]

/-- Lines that were written in front of a text are read in front of its lines. -/
theorem lines_writeLines_append {ls : List (List Char × Ending)}
    (h : ∀ e ∈ ls, '\n' ∉ e.1 ∧ e.2.Suits e.1) (s : List Char) :
    lines (writeLines ls ++ s) = ls.map Prod.fst ++ lines s := by
  induction ls with
  | nil => rfl
  | cons e ls ih =>
    obtain ⟨⟨hline, hsuits⟩, hls⟩ := List.forall_mem_cons.mp h
    have hcons : writeLines (e :: ls) ++ s = e.1 ++ e.2.chars ++ (writeLines ls ++ s) := by
      simp [writeLines]
    rw [hcons, lines_append_ending hline hsuits, ih hls, List.map_cons, List.cons_append]

theorem splitLines_writing_append {ls : List (String × Ending)}
    (h : ∀ e ∈ ls, '\n' ∉ e.1.toList ∧ e.2.Suits e.1.toList) (s : String) :
    splitLines (writing ls ++ s) = ls.map Prod.fst ++ splitLines s := by
  have hchars : ∀ e ∈ ls.map fun e => (e.1.toList, e.2), '\n' ∉ e.1 ∧ e.2.Suits e.1 :=
    List.forall_mem_map.mpr h
  rw [splitLines, String.toList_append, toList_writing, lines_writeLines_append hchars,
    List.map_append, List.map_map, List.map_map]
  exact congrArg (· ++ splitLines s) (List.map_congr_left fun e _ => String.ofList_toList)

/-! ### The last line -/

theorem lines_of_lineFeed_notMem {s : List Char} (h : '\n' ∉ s) (hs : s ≠ []) :
    lines s = [dropReturn s] := by
  have hlast : dropEmptyLast [s] = [s] := if_neg (by simpa using hs)
  rw [lines, pieces_of_lineFeed_notMem h, hlast, List.map_singleton]

theorem splitLines_of_lineFeed_notMem {line : String} (h : '\n' ∉ line.toList) (hline : line ≠ "")
    (hreturn : line.toList.getLast? ≠ some '\r') : splitLines line = [line] := by
  have hne : line.toList ≠ [] := fun hnil => hline (String.toList_eq_nil_iff.mp hnil)
  rw [splitLines, lines_of_lineFeed_notMem h hne, dropReturn, if_neg hreturn, List.map_singleton,
    String.ofList_toList]

/-- Whether a text is made of whole lines does not depend on its first line. -/
theorem wholeLines_append_lineFeed (l s : List Char) : WholeLines (l ++ '\n' :: s) ↔ WholeLines s := by
  cases s with
  | nil => simp [WholeLines]
  | cons c s => simp [WholeLines]

theorem wholeLines_of_lineFeed_notMem {s : List Char} (h : '\n' ∉ s) : WholeLines s ↔ s = [] := by
  refine or_iff_left fun hlast => h ?_
  exact List.mem_of_getLast? hlast

/-! ### How many lines there are -/

/-- There is a line for every line feed, and one more if the text goes on behind the last of them. -/
theorem length_lines (s : List Char) :
    (lines s).length = s.count '\n' + if WholeLines s then 0 else 1 := by
  induction s using line_induction with
  | last s h =>
    rw [List.count_eq_zero.mpr h, Nat.zero_add]
    by_cases hs : s = []
    · rw [if_pos ((wholeLines_of_lineFeed_notMem h).mpr hs), hs, lines_nil, List.length_nil]
    · rw [if_neg (mt (wholeLines_of_lineFeed_notMem h).mp hs), lines_of_lineFeed_notMem h hs,
        List.length_singleton]
  | line l s h ih =>
    rw [lines_append_of_lineFeed_notMem h, List.length_cons, ih, List.count_append,
      List.count_eq_zero.mpr h, List.count_cons_self, Nat.zero_add, Nat.add_right_comm]
    simp only [wholeLines_append_lineFeed]

theorem lines_ne_nil {s : List Char} (h : s ≠ []) : lines s ≠ [] := by
  induction s using line_induction with
  | last s hs => rw [lines_of_lineFeed_notMem hs h]; exact List.cons_ne_nil _ _
  | line l s hl _ => rw [lines_append_of_lineFeed_notMem hl]; exact List.cons_ne_nil _ _

/-! ### Lines put together again -/

theorem dropReturn_of_return_notMem {line : List Char} (h : '\r' ∉ line) : dropReturn line = line :=
  if_neg fun hlast => h (List.mem_of_getLast? hlast)

/-- **Nothing is lost** of a text without carriage returns: its lines with line feeds between them are the
text, but for the line feed at its end. -/
theorem intercalate_lines {s : List Char} (h : '\r' ∉ s) :
    ['\n'].intercalate (lines s) ++ (if s.getLast? = some '\n' then ['\n'] else []) = s := by
  induction s using line_induction with
  | last s hs =>
    have hlast : s.getLast? ≠ some '\n' := fun hlast => hs (List.mem_of_getLast? hlast)
    rw [if_neg hlast, List.append_nil]
    by_cases hnil : s = []
    · rw [hnil, lines_nil, List.intercalate_nil]
    · rw [lines_of_lineFeed_notMem hs hnil, dropReturn_of_return_notMem h, List.intercalate_singleton]
  | line l s hl ih =>
    have hl' : '\r' ∉ l := fun hmem => h (List.mem_append_left _ hmem)
    have hs' : '\r' ∉ s := fun hmem => h (List.mem_append_right _ (List.mem_cons_of_mem _ hmem))
    rw [lines_append_of_lineFeed_notMem hl, dropReturn_of_return_notMem hl', List.getLast?_append_cons]
    by_cases hnil : s = []
    · rw [hnil, lines_nil, List.intercalate_singleton]
      rfl
    · have hlast : ('\n' :: s).getLast? = s.getLast? := by
        rw [List.getLast?_cons, List.getLast?_eq_some_getLast hnil, Option.getD_some]
      rw [hlast, List.intercalate_cons_of_ne_nil (lines_ne_nil hnil), List.append_assoc, ih hs',
        List.append_assoc, List.singleton_append]

/-! ### Main statement -/

/-- **Cutting a text into lines undoes writing lines.**  Lines that hold no line feed, each written with a
line feed or with a carriage return and a line feed, are read back; so is a last line without an ending,
if it is not empty and ends with no carriage return.

Of any text, no line holds a line feed.  There are as many lines as line feeds, and one more if the text
goes on behind the last of them.  The lines of a text without carriage returns, put together with line
feeds and followed by one if the text is, are the text. -/
theorem cutting_undoes_writing :
    (∀ ls : List (String × Ending), (∀ e ∈ ls, '\n' ∉ e.1.toList ∧ e.2.Suits e.1.toList) →
        splitLines (writing ls) = ls.map Prod.fst ∧
          ∀ last : String, '\n' ∉ last.toList → last ≠ "" → last.toList.getLast? ≠ some '\r' →
            splitLines (writing ls ++ last) = ls.map Prod.fst ++ [last]) ∧
      ∀ s : String,
        (∀ line ∈ splitLines s, '\n' ∉ line.toList) ∧
          (splitLines s).length =
            s.toList.count '\n' + (if s ≠ "" ∧ s.toList.getLast? ≠ some '\n' then 1 else 0) ∧
          ('\r' ∉ s.toList →
            "\n".intercalate (splitLines s) ++ (if s.toList.getLast? = some '\n' then "\n" else "") =
              s) := by
  refine ⟨fun ls hls => ⟨?_, fun last hlast hne hreturn => ?_⟩, fun s => ⟨?_, ?_, ?_⟩⟩
  · simpa [splitLines] using splitLines_writing_append hls ""
  · rw [splitLines_writing_append hls, splitLines_of_lineFeed_notMem hlast hne hreturn]
  · intro line hline
    obtain ⟨chars, hchars, rfl⟩ := List.mem_map.mp hline
    rw [String.toList_ofList]
    exact lineFeed_notMem_of_mem_lines hchars
  · have hwhole : WholeLines s.toList ↔ ¬(s ≠ "" ∧ s.toList.getLast? ≠ some '\n') := by
      rw [not_and_or, not_not, not_not, WholeLines, String.toList_eq_nil_iff]
    rw [length_splitLines, length_lines]
    simp only [hwhole, ite_not]
  · intro hreturn
    rw [← String.toList_inj, String.toList_append, String.toList_intercalate]
    have hlines : (splitLines s).map String.toList = lines s.toList := by
      rw [splitLines, List.map_map]
      exact List.map_id'' (fun _ => String.toList_ofList) _
    have hlast : (if s.toList.getLast? = some '\n' then "\n" else "").toList =
        if s.toList.getLast? = some '\n' then ['\n'] else [] := by
      split <;> rfl
    rw [hlines, hlast]
    exact intercalate_lines hreturn

/-- Lines of several kinds, one of which ends with a carriage return, and a last line without an ending. -/
theorem cutting_undoes_writing_mixedEndings :
    splitLines (writing [("タイトル：春", .returnLineFeed), ("", .lineFeed), ("一\r", .returnLineFeed),
        ("二\u2028三", .lineFeed)] ++ "四\r五") = ["タイトル：春", "", "一\r", "二\u2028三", "四\r五"] ∧
      "\n".intercalate (splitLines "一\n\n二\n") ++ "\n" = "一\n\n二\n" := by
  obtain ⟨hwritten, hread⟩ := cutting_undoes_writing
  refine ⟨(hwritten _ ?_).2 "四\r五" (by decide) (by decide) (by decide),
    (hread "一\n\n二\n").2.2 (by decide)⟩
  simp only [List.forall_mem_cons, List.not_mem_nil, false_imp_iff, implies_true, and_true]
  exact ⟨⟨by decide, fun _ => rfl⟩, ⟨by decide, nofun⟩, ⟨by decide, fun _ => rfl⟩,
    ⟨by decide, fun h => absurd h (by decide)⟩⟩

end Daihon.Text

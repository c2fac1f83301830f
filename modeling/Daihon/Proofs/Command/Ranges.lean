import Daihon.Command.Run
import Daihon.Proofs.Script.Ranges

/-!
# Ranges of lines of a script file

The lines that are read from a file for a range are the lines that scenes give as theirs
(`readLines_of_isRange`, `scenes_ofText_between`): put together again, they make the scenes with line
numbers in the range, counted anew.  The command for choices takes exactly these lines, and refuses what is
no range before anything else (`ranges_mean_lines`).
-/

namespace Daihon

open Script Command

/-! ### Reading a range -/

namespace Script

theorem readLines_of_isRange {s : Surroundings} {path : Path} {encoding text : String}
    {notices : List Notice} (htext : readText s path encoding = (.ok text, notices)) {start : Int}
    {stop : Option Int} (h : Text.IsRange start stop) :
    readLines s path start stop encoding =
      (.ok (Text.between start stop (Text.splitLines text)), notices) := by
  rw [readLines, htext, ← Text.slice_eq_between h]
  rfl

/-- The lines in a range make the scenes with line numbers in the range, counted anew. -/
theorem scenes_ofText_between (text : String) {start : Int} {stop : Option Int}
    (h : Text.IsRange start stop) :
    (Document.ofText (joined (Text.between start stop (Text.splitLines text)))).scenes =
      (Document.ofText text).scenesWithin start stop := by
  have hplain (line : List Char) (hline : line ∈ Text.between start stop (Text.lines text.toList)) :
      '\n' ∉ line :=
    Text.lineFeed_notMem_of_mem_lines ((Text.between_sublist start stop _).subset hline)
  rw [Text.splitLines, Text.between_map h, scenes_ofText_joined hplain]
  exact (mapIdx_recount_filter_inRange h _).symm

end Script

/-! ### The command for choices -/

namespace Command

theorem isBadRange_eq_true_iff {start : Int} {stop : Option Int} :
    isBadRange start stop = true ↔ ¬Text.IsRange start stop := by
  have hstop : stop.any (fun m => decide (m < start)) = true ↔ ¬∀ m ∈ stop, start ≤ m := by
    cases stop <;> simp
  rw [isBadRange, Text.IsRange, Bool.or_eq_true, decide_eq_true_eq, hstop, not_and_or, Int.not_le]

section Choices

variable {r : Request} {start : Int} {stop : Option Int} (hjob : r.job = .choices start stop) (s : Session)
include hjob

/-- What is no range is refused before settings and script are looked at: in every session, which stays as
it is. -/
theorem perform_of_not_isRange (h : ¬Text.IsRange start stop) :
    r.perform s = (.error (.diagnosed (badRange start stop)), s) := by
  simp only [Request.perform, hjob, Job.check, isBadRange_eq_true_iff.mpr h, if_true]

theorem perform_of_isRange (h : Text.IsRange start stop) {held : Held} {after : Session}
    {notices notices' : List Notice} (hsettings : s.forCommand r.config [] = ⟨.ok held, after, notices⟩)
    {text : String}
    (htext : readText after.surroundings r.script held.loaded.settings.scriptEncoding = (.ok text, notices')) :
    r.perform s =
      ((Choice.ofLines (Text.between start stop (Text.splitLines text))).map .choices, after) := by
  have hgood : isBadRange start stop = false := by
    rw [← Bool.not_eq_true, isBadRange_eq_true_iff, not_not]
    exact h
  simp only [Request.perform, hjob, Job.check, hgood, Bool.false_eq_true, if_false, hsettings, Job.perform,
    readLines_of_isRange htext h]

end Choices

end Command

/-- **Ranges mean lines.**  For every file that can be read and every range, the lines that are read are
those with numbers in the range: there are as many of them as of these numbers, put together they make the
scenes with these line numbers, counted anew, and two ranges that meet give the lines of both.

The command for choices reads the choices of exactly these lines, and it refuses what is no range in every
session, which stays as it is. -/
theorem ranges_mean_lines :
    (∀ (s : Surroundings) (path : Path) (encoding text : String) (notices : List Notice)
        (start : Int) (stop : Option Int),
      readText s path encoding = (.ok text, notices) → Text.IsRange start stop →
        ∃ ls, readLines s path start stop encoding = (.ok ls, notices) ∧
          ls = Text.between start stop (Text.splitLines text) ∧
          ls.length = (List.range' 1 (Text.splitLines text).length).countP
            (fun n : Nat => Text.InRange start stop n) ∧
          (Document.ofText (joined ls)).scenes = (Document.ofText text).scenesWithin start stop ∧
          ∀ k, start ≤ k → (∀ m ∈ stop, k < m) →
            ∃ first second, readLines s path start (some k) encoding = (.ok first, notices) ∧
              readLines s path (k + 1) stop encoding = (.ok second, notices) ∧ first ++ second = ls) ∧
      ∀ (s : Session) (r : Request) (start : Int) (stop : Option Int), r.job = .choices start stop →
        (¬Text.IsRange start stop → r.perform s = (.error (.diagnosed (badRange start stop)), s) ∧
          (badRange start stop).kind = .validation) ∧
        ∀ (held : Held) (after : Session) (notices notices' : List Notice) (text : String),
          Text.IsRange start stop → s.forCommand r.config [] = ⟨.ok held, after, notices⟩ →
          readText after.surroundings r.script held.loaded.settings.scriptEncoding = (.ok text, notices') →
            r.perform s =
              ((Choice.ofLines (Text.between start stop (Text.splitLines text))).map .choices, after) := by
  constructor
  · intro s path encoding text notices start stop htext h
    refine ⟨_, readLines_of_isRange htext h, rfl, Text.length_between start stop _,
      scenes_ofText_between text h, fun k hk hstop => ?_⟩
    have hfirst := h.upTo hk
    have hsecond := h.behind hk hstop
    exact ⟨_, _, readLines_of_isRange htext hfirst, readLines_of_isRange htext hsecond,
      Text.between_append_between h _ hk hstop⟩
  · intro s r start stop hjob
    exact ⟨fun h => ⟨perform_of_not_isRange hjob s h, rfl⟩,
      fun _ _ _ _ _ h hsettings htext => perform_of_isRange hjob s h hsettings htext⟩

/-- A script in a file with a mark at its start and line ends of all three kinds. -/
def markedFile : Surroundings where
  disk :=
    ⟨[(workDirectory, .directory), (homeDirectory, .directory),
      (["work", "s.txt"], .file (Encoding.Utf8.encode "\uFEFF太郎\r\n1. 東→北\r\r- 西\n「やあ」".toList))]⟩
  environment := []

/-- A request for the choices of a range of the script. -/
def choicesRequest (start : Int) (stop : Option Int) : Request :=
  { job := .choices start stop, script := .ofText "s.txt", config := none, asJson := true }

/-- A range that stops behind the last line, cut behind its first line, and choices asked for once with a
range and once without. -/
theorem ranges_mean_lines_markedFile :
    (∃ ls, readLines markedFile (.ofText "s.txt") 4 (some 9) "utf-8" =
          (.ok ls, [.readingScript "s.txt" "utf-8"]) ∧
        ls = ["- 西", "「やあ」"] ∧ (Document.ofText (joined ls)).scenes.map Scene.lineNumber = [1, 2] ∧
        ∃ first second,
          readLines markedFile (.ofText "s.txt") 4 (some 4) "utf-8" =
            (.ok first, [.readingScript "s.txt" "utf-8"]) ∧
          readLines markedFile (.ofText "s.txt") (4 + 1) (some 9) "utf-8" =
            (.ok second, [.readingScript "s.txt" "utf-8"]) ∧ first ++ second = ls) ∧
      (∃ after, (choicesRequest 2 none).perform { surroundings := markedFile } =
        (.ok (.choices [⟨"choice_1", "東", "北", none⟩]), after)) ∧
      (choicesRequest 3 (some 2)).perform { surroundings := markedFile } =
        (.error (.diagnosed (badRange 3 (some 2))), { surroundings := markedFile }) := by
  obtain ⟨hread, hcommand⟩ := ranges_mean_lines
  have htext : readText markedFile (.ofText "s.txt") "utf-8" =
      (.ok "太郎\n1. 東→北\n\n- 西\n「やあ」", [.readingScript "s.txt" "utf-8"]) := rfl
  refine ⟨?_, ?_, ((hcommand _ _ 3 (some 2) rfl).1 (by decide)).1⟩
  · obtain ⟨ls, hls, heq, -, hscenes, hcut⟩ := hread _ _ _ _ _ 4 (some 9) htext (by decide)
    refine ⟨ls, hls, heq.trans (by decide), ?_, hcut 4 (by decide) (by decide)⟩
    rw [hscenes]
    decide
  · have hencoding : ((Session.forCommand { surroundings := markedFile } none []).answer.toOption.map
        fun held => held.loaded.settings.scriptEncoding) = some "utf-8" := by decide +kernel
    have hafter : (Session.forCommand { surroundings := markedFile } none []).session.surroundings =
        markedFile := rfl
    cases hsettings : Session.forCommand { surroundings := markedFile } none [] with
    | mk answer after notices =>
      rw [hsettings] at hencoding hafter
      cases answer with
      | error e => cases hencoding
      | ok held =>
        have hutf8 : held.loaded.settings.scriptEncoding = "utf-8" := Option.some.inj hencoding
        rw [← hafter, ← hutf8] at htext
        exact ⟨after, (hcommand _ (choicesRequest 2 none) 2 none rfl).2 _ _ _ _ _ (by decide) hsettings htext⟩

end Daihon

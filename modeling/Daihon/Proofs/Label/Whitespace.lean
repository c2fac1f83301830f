import Daihon.Proofs.Label.Plans
import Daihon.Proofs.Script.Canonical
import Daihon.Proofs.Text.Endings

/-!
# Blanks around lines

Two scripts with the same lines up to the blanks around them give the same document, the same report of it,
the same plans, and the same choices from any part of their lines (`blanks_around_lines_never_show`).  The
reason is one and the same for all four readings: trimming all lines first changes nothing
(`Document.ofLines_map_trim`, `plansFrom_map_trim`, `choicesFrom_map_trimmed`).

Carriage returns in front of line feeds are such blanks, whatever carriage returns the text holds besides.
-/

namespace Daihon

open Script Label

/-- Whether two texts have as many lines, and each two of them are equal once they are trimmed. -/
def SameLines (a b : String) : Prop :=
  (Text.lines a.toList).map Text.trim = (Text.lines b.toList).map Text.trim

instance (a b : String) : Decidable (SameLines a b) := inferInstanceAs (Decidable (_ = _))

/-- A text with a carriage return put in front of every line feed. -/
def withReturns (text : String) : String :=
  .ofList (Text.withReturns text.toList)

theorem sameLines_withReturns (text : String) : SameLines (withReturns text) text := by
  rw [SameLines, withReturns, String.toList_ofList, Text.map_trim_lines_withReturns]

theorem SameLines.length_eq {a b : String} (h : SameLines a b) :
    (Text.lines a.toList).length = (Text.lines b.toList).length := by
  simpa using congrArg List.length h

theorem map_trimmed_splitLines (text : String) :
    (Text.splitLines text).map Text.trimmed =
      ((Text.lines text.toList).map Text.trim).map String.ofList := by
  simp [Text.splitLines, Text.trimmed, Function.comp_def]

theorem SameLines.map_trimmed_eq {a b : String} (h : SameLines a b) :
    (Text.splitLines a).map Text.trimmed = (Text.splitLines b).map Text.trimmed := by
  rw [map_trimmed_splitLines, map_trimmed_splitLines, h]

/-! ### Documents -/

namespace Script

theorem Document.ofLines_map_trim (ls : List (List Char)) :
    Document.ofLines (ls.map Text.trim) = Document.ofLines ls := by
  simp only [Document.ofLines, header_map_trim, scenesFrom_map_trim]

theorem Document.ofText_eq_of_sameLines {a b : String} (h : SameLines a b) :
    Document.ofText a = Document.ofText b := by
  rw [Document.ofText, ← Document.ofLines_map_trim, h, Document.ofLines_map_trim]
  rfl

theorem Document.notice_eq_of_sameLines {a b : String} (h : SameLines a b) :
    Document.notice a = Document.notice b := by
  have hdoc : Document.ofLines (Text.lines a.toList) = Document.ofLines (Text.lines b.toList) :=
    Document.ofText_eq_of_sameLines h
  simp only [Document.notice, hdoc, h.length_eq]

/-! ### Choices -/

theorem choicesFrom_map_trimmed (count : Nat) (ls : List String) :
    choicesFrom count ((ls.map Text.trimmed).map .line) = choicesFrom count (ls.map .line) := by
  induction ls generalizing count with
  | nil => rfl
  | cons line ls ih => simp only [List.map_cons, choicesFrom, Element.line?, Text.toList_trimmed, Text.trim_trim, ih]

theorem ofLines_eq_of_map_trimmed_eq {xs ys : List String}
    (h : xs.map Text.trimmed = ys.map Text.trimmed) : Choice.ofLines xs = Choice.ofLines ys := by
  rw [Choice.ofLines, ← choicesFrom_map_trimmed, h, choicesFrom_map_trimmed]
  rfl

end Script

theorem Text.slice_map {α β : Type} (f : α → β) (xs : List α) (start : Int) (stop : Option Int) :
    Text.slice (xs.map f) start stop = (Text.slice xs start stop).map f := by
  simp only [Text.slice, List.length_map, List.map_take, List.map_drop]

theorem SameLines.choices_slice_eq {a b : String} (h : SameLines a b) (start : Int) (stop : Option Int) :
    Choice.ofLines (Text.slice (Text.splitLines a) start stop) =
      Choice.ofLines (Text.slice (Text.splitLines b) start stop) := by
  apply ofLines_eq_of_map_trimmed_eq
  rw [← Text.slice_map, ← Text.slice_map, h.map_trimmed_eq]

theorem SameLines.choices_at_eq {a b : String} (h : SameLines a b) (positions : List Nat) :
    Choice.ofLines (positions.filterMap fun i => (Text.splitLines a)[i]?) =
      Choice.ofLines (positions.filterMap fun i => (Text.splitLines b)[i]?) := by
  apply ofLines_eq_of_map_trimmed_eq
  simp only [List.map_filterMap, ← List.getElem?_map, h.map_trimmed_eq]

/-! ### Plans -/

namespace Label

theorem plansFrom_map_trim (index lineNumber : Nat) (speaker : String) (ls : List (List Char)) :
    plansFrom index lineNumber speaker (ls.map Text.trim) = plansFrom index lineNumber speaker ls := by
  induction ls generalizing index lineNumber speaker with
  | nil => rfl
  | cons line ls ih =>
    rw [List.map_cons, plansFrom, plansFrom, content?_trim]
    simp only [ih]

theorem plansOf_eq_of_sameLines {a b : String} (h : SameLines a b) : plansOf a = plansOf b := by
  rw [plansOf, ← plansFrom_map_trim, h, plansFrom_map_trim]
  rfl

end Label

/-- **Blanks around lines never show.**  Two scripts with the same lines up to blanks around them have the
same document with the same report, the same plans, and the same choices in any part of the lines, be it a
slice or a row of positions.  So a script may end its lines either way: carriage returns put in front of all
line feeds change neither document nor plans. -/
theorem blanks_around_lines_never_show :
    (∀ a b : String, SameLines a b →
      Document.ofText a = Document.ofText b ∧ Document.notice a = Document.notice b ∧
        plansOf a = plansOf b ∧
        (∀ start stop, Choice.ofLines (Text.slice (Text.splitLines a) start stop) =
          Choice.ofLines (Text.slice (Text.splitLines b) start stop)) ∧
        ∀ positions : List Nat, Choice.ofLines (positions.filterMap fun i => (Text.splitLines a)[i]?) =
          Choice.ofLines (positions.filterMap fun i => (Text.splitLines b)[i]?)) ∧
      ∀ text : String, Document.ofText (withReturns text) = Document.ofText text ∧
        plansOf (withReturns text) = plansOf text :=
  ⟨fun _ _ h => ⟨Document.ofText_eq_of_sameLines h, Document.notice_eq_of_sameLines h,
      plansOf_eq_of_sameLines h, h.choices_slice_eq, h.choices_at_eq⟩,
    fun text => ⟨Document.ofText_eq_of_sameLines (sameLines_withReturns text),
      plansOf_eq_of_sameLines (sameLines_withReturns text)⟩⟩

/-- A script with blanks of several kinds around its lines, and carriage returns in odd places. -/
def blankedScript : String := "\u3000章：\r 一\r\r\n\t「 やあ 」\u2028\n- 東→北 "

/-- The same script without most of the blanks. -/
def plainScript : String := "章：\r 一\n「 やあ 」\r\n- 東→北\n"

/-- The blanks within the quotes are no blanks around the line. -/
theorem blanks_around_lines_never_show_quoted :
    SameLines blankedScript plainScript ∧
      plansOf blankedScript = [⟨0, .dialogue, " やあ ", "", 2⟩, ⟨1, .monologue, "- 東→北", "", 3⟩] ∧
      Choice.ofLines (Text.slice (Text.splitLines blankedScript) 2 none) =
        .ok [⟨"choice_1", "東", "北", none⟩] := by
  have h : SameLines blankedScript plainScript := by decide
  obtain ⟨-, -, hplans, hslice, -⟩ := blanks_around_lines_never_show.1 _ _ h
  have hlines : Text.slice (Text.splitLines plainScript) 2 none = ["- 東→北"] := by decide
  refine ⟨h, hplans.trans (by decide), (hslice 2 none).trans ?_⟩
  rw [hlines]
  rfl

end Daihon

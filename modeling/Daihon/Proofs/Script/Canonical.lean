import Daihon.Proofs.Script.Scenes
import Daihon.Proofs.Text.Trimming

/-!
# Canonical lines

What a line adds to a script is written again as one canonical line: a directive as the trimmed line
itself, a monologue header with its mark in front, and other speech as it stood.  The canonical line adds
the same to a script as the line it comes from (`content?_line`), it is trimmed, and it holds no character
that the line does not hold, its mark and quotes aside (`mem_line`).
-/

namespace Daihon.Script

/-- The canonical line for a line of speech. -/
def Speech.line (s : Speech) : List Char :=
  if s.isMonologue then
    if s.text.isEmpty then monologueMark ++ s.character.toList else s.text.toList
  else if s.character.isEmpty then openQuote :: s.text.toList ++ [closeQuote]
  else s.character.toList

/-- The canonical line for what `line` adds to a script. -/
def Content.line (line : List Char) : Content → List Char
  | .directive _ => Text.trim line
  | .speech s => s.line

theorem Content.line_scene (c : Content) (line : List Char) (number lineNumber : Nat) :
    (c.scene line number lineNumber).line = c.line line := by
  cases c with
  | directive d =>
    obtain ⟨kind, value⟩ := d
    cases kind <;> simp [Content.scene, Directive.scene, Scene.line, Content.line]
  | speech s =>
    obtain ⟨character, text, isMonologue⟩ := s
    cases isMonologue <;> simp [Content.scene, Speech.scene, Scene.line, Content.line, Speech.line]

/-! ### Blanks around a line -/

theorem isStructural_trim (line : List Char) : isStructural (Text.trim line) = isStructural line := by
  simp [isStructural]

theorem directive?_trim (line : List Char) : directive? (Text.trim line) = directive? line := by
  simp [directive?]

theorem speech?_trim (line : List Char) : speech? (Text.trim line) = speech? line := by
  simp [speech?, isStructural_trim, directive?_trim]

theorem content?_trim (line : List Char) : content? (Text.trim line) = content? line := by
  rw [content?, directive?_trim, speech?_trim]
  rfl

theorem scene?_trim (line : List Char) (number lineNumber : Nat) :
    scene? (Text.trim line) number lineNumber = scene? line number lineNumber := by
  simp only [scene?, directive?_trim, speech?_trim, Directive.scene, Text.trim_trim]

theorem scenesFrom_map_trim (number lineNumber : Nat) (ls : List (List Char)) :
    scenesFrom number lineNumber (ls.map Text.trim) = scenesFrom number lineNumber ls := by
  induction ls generalizing number lineNumber with
  | nil => rfl
  | cons line ls ih =>
    rw [List.map_cons, scenesFrom, scenesFrom, scene?_trim]
    cases scene? line number lineNumber <;> simp only [ih]

theorem header_map_trim (mark : List Char) (ls : List (List Char)) :
    header mark (ls.map Text.trim) = header mark ls := by
  induction ls with
  | nil => rfl
  | cons line ls ih =>
    rw [List.map_cons, header, header, Text.trim_trim]
    cases Text.after? mark (Text.trim line) <;> simp only [ih]

theorem trim_ne_nil_of_not_isStructural {line : List Char} (h : isStructural line = false) :
    Text.trim line ≠ [] := by
  intro hnil
  simp [isStructural, isStructuralTrimmed, hnil] at h

theorem speech?_eq_some_iff {line : List Char} {s : Speech} :
    speech? line = some s ↔
      isStructural line = false ∧ directive? line = none ∧ speechOf (Text.trim line) = s := by
  simp only [speech?, directive?_trim]
  cases isStructural line <;> cases directive? line <;> simp

theorem content?_eq_speech_iff {line : List Char} {s : Speech} :
    content? line = some (.speech s) ↔ speech? line = some s := by
  unfold content?
  cases hd : directive? line with
  | none => simp
  | some d => simp [speech?_eq_some_iff, hd]

theorem content?_eq_directive_iff {line : List Char} {d : Directive} :
    content? line = some (.directive d) ↔ directive? line = some d := by
  unfold content?
  cases directive? line <;> simp

/-! ### The marks in front of lines -/

theorem contains_append_self (mark s : List Char) : Text.contains mark (mark ++ s) = true := by
  have h : Text.after? mark (mark ++ s) = some s := Text.after?_eq_some_iff.mpr rfl
  cases hs : mark ++ s with
  | nil => simp_all [Text.contains, Text.cut?]
  | cons c t => rw [hs] at h; simp [Text.contains, Text.cut?, h]

theorem removeFirst_append_self {mark : List Char} (hmark : mark ≠ []) (s : List Char) :
    Text.removeFirst mark (mark ++ s) = s := by
  have h : Text.after? mark (mark ++ s) = some s := Text.after?_eq_some_iff.mpr rfl
  cases hs : mark ++ s with
  | nil => simp_all
  | cons c t => rw [hs] at h; simp [Text.removeFirst, Text.cut?, h]

theorem cut?_eq_some {mark s before rest : List Char} (h : Text.cut? mark s = some (before, rest)) :
    s = before ++ mark ++ rest := by
  induction s generalizing before with
  | nil =>
    rw [Text.cut?] at h
    split at h
    · simp_all
    · simp at h
  | cons c s ih =>
    rw [Text.cut?] at h
    cases hafter : Text.after? mark (c :: s) with
    | some r =>
      simp only [hafter, Option.some.injEq, Prod.mk.injEq] at h
      obtain ⟨rfl, rfl⟩ := h
      simpa using Text.after?_eq_some_iff.mp hafter
    | none =>
      simp only [hafter, Option.map_eq_some_iff, Prod.mk.injEq, Prod.exists] at h
      obtain ⟨before', rest', h, rfl, rfl⟩ := h
      rw [ih h]
      rfl

theorem mem_of_mem_removeFirst {mark s : List Char} {c : Char} (h : c ∈ Text.removeFirst mark s) :
    c ∈ s := by
  unfold Text.removeFirst at h
  split at h
  · next before rest hcut =>
    rw [cut?_eq_some hcut]
    simp only [List.mem_append] at h ⊢
    tauto
  · exact h

/-! ### Monologue headers -/

section Monologue

variable {name : List Char} (h : Text.trim name = name)
include h

theorem trim_monologueMark_append : Text.trim (monologueMark ++ name) = monologueMark ++ name :=
  Text.trim_append_of_trimmed (by decide) (by decide) h

/-- A mark in front of a trimmed name makes a monologue header, whatever the name looks like. -/
theorem speech?_monologueMark_append :
    speech? (monologueMark ++ name) = some ⟨.ofList name, "", true⟩ := by
  have hcontains := contains_append_self monologueMark name
  rw [speech?_eq_some_iff, isStructural, directive?, trim_monologueMark_append h]
  refine ⟨rfl, rfl, ?_⟩
  rw [speechOf, isSpeakerHeader, hcontains, removeFirst_append_self (by decide), h]
  rfl

end Monologue

/-! ### Other speech -/

theorem quoted?_eq_some {s text : List Char} (h : quoted? s = some text) :
    text ≠ [] ∧ s = openQuote :: text ++ [closeQuote] := by
  unfold quoted? at h
  split at h
  · next hs =>
    simp only [Bool.and_eq_true, decide_eq_true_eq, beq_iff_eq] at hs
    obtain ⟨⟨hlen, hhead⟩, hlast⟩ := hs
    obtain ⟨t, rfl⟩ := List.head?_eq_some_iff.mp hhead
    have ht : t ≠ [] := by rintro rfl; simp at hlen
    rw [List.getLast?_cons_of_ne_nil ht] at hlast
    obtain ⟨u, rfl⟩ := List.getLast?_eq_some_iff.mp hlast
    simp only [List.tail_cons, List.dropLast_concat, Option.some.injEq] at h
    subst h
    refine ⟨?_, rfl⟩
    rintro rfl
    simp at hlen
  · simp at h

/-- The canonical line for the speech of a line is the line, unless it is a monologue header, whose
name comes from the line. -/
theorem line_speechOf {s : List Char} (hs : s ≠ []) :
    (speechOf s).line = s ∨
      speechOf s = ⟨.ofList (Text.trim (Text.removeFirst monologueMark s)), "", true⟩ := by
  unfold speechOf
  split
  · left; simp [Speech.line, hs]
  · split
    · right; rfl
    · left
      split
      · next text hq =>
        obtain ⟨hne, heq⟩ := quoted?_eq_some hq
        simp [Speech.line, heq]
      · simp [Speech.line, hs]

theorem mem_line_speechOf {s : List Char} (hs : s ≠ []) {c : Char} (h : c ∈ (speechOf s).line) :
    c ∈ monologueMark ∨ c ∈ s := by
  rcases line_speechOf hs with hline | hname
  · exact .inr (hline ▸ h)
  · rw [hname] at h
    have h : c ∈ monologueMark ∨ c ∈ Text.trim (Text.removeFirst monologueMark s) := by
      simpa [Speech.line] using h
    exact h.imp_right fun h => mem_of_mem_removeFirst (Text.mem_of_mem_trim h)

/-! ### What a canonical line adds -/

theorem speech?_line {line : List Char} {s : Speech} (h : speech? line = some s) :
    speech? s.line = some s ∧ Text.trim s.line = s.line := by
  obtain ⟨hstructural, -, hs⟩ := speech?_eq_some_iff.mp h
  have hne := trim_ne_nil_of_not_isStructural hstructural
  rcases line_speechOf hne with hline | hname
  · rw [← hs, hline, Text.trim_trim, speech?_trim, hs]
    exact ⟨h, rfl⟩
  · have htrim := Text.trim_trim (Text.removeFirst monologueMark (Text.trim line))
    have hsline : s.line = monologueMark ++ Text.trim (Text.removeFirst monologueMark (Text.trim line)) := by
      rw [← hs, hname]
      simp [Speech.line]
    rw [hsline]
    exact ⟨(speech?_monologueMark_append htrim).trans (by rw [← hs, hname]),
      trim_monologueMark_append htrim⟩

/-- **A canonical line adds the same** to a script as the line it comes from, and it is trimmed. -/
theorem content?_line {line : List Char} {c : Content} (h : content? line = some c) :
    content? (c.line line) = some c ∧ Text.trim (c.line line) = c.line line := by
  cases c with
  | directive d =>
    rw [Content.line, content?_eq_directive_iff, directive?_trim, Text.trim_trim]
    exact ⟨content?_eq_directive_iff.mp h, rfl⟩
  | speech s =>
    rw [content?_eq_speech_iff] at h ⊢
    exact speech?_line h

theorem lineFeed_notMem_line {line : List Char} {c : Content} (h : content? line = some c)
    (hline : '\n' ∉ line) : '\n' ∉ c.line line := by
  have htrim : '\n' ∉ Text.trim line := fun hmem => hline (Text.mem_of_mem_trim hmem)
  cases c with
  | directive d => exact htrim
  | speech s =>
    obtain ⟨hstructural, -, rfl⟩ := speech?_eq_some_iff.mp (content?_eq_speech_iff.mp h)
    intro hmem
    exact (mem_line_speechOf (trim_ne_nil_of_not_isStructural hstructural) hmem).elim (by decide) htrim

theorem Content.scene_line (c : Content) (line : List Char) (number lineNumber : Nat) :
    c.scene (c.line line) number lineNumber = c.scene line number lineNumber := by
  cases c with
  | directive d => simp [Content.scene, Content.line, Directive.scene]
  | speech s => rfl

end Daihon.Script

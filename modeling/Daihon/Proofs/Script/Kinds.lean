import Daihon.Proofs.Script.Canonical
import Daihon.Proofs.Script.Items
import Mathlib.Data.Set.Subsingleton

/-!
# The kinds of lines

Every line, whatever it holds, is structural, a directive or speech, and never two of them
(`line_kinds_partition`).  Two facts about the marks in front of lines carry this: no tag of a directive
starts another one (`DirectiveKind.eq_of_tag_isPrefix`), and no tag starts together with a mark of a
structural line (`not_tag_isPrefix_of_isStructuralTrimmed`).  Hence it does not matter in which order a
line is asked what it is (`speechFirst?_eq_content?`), and a directive is the only way to cut its line into
a tag, blanks and a trimmed value (`directive?_eq_some_iff`).
-/

namespace Daihon.Script

/-- The kinds of lines. -/
inductive LineKind where
  | structural
  | directive
  | speech
  deriving DecidableEq, Repr

/-- Whether a line is of a kind; each kind is decided without regard to the others. -/
def LineKind.Fits (line : List Char) : LineKind → Prop
  | .structural => isStructural line = true
  | .directive => (directive? line).isSome = true
  | .speech => (speech? line).isSome = true

/-- What a line adds to the script, asked as speech first. -/
def speechFirst? (line : List Char) : Option Content :=
  match speech? line with
  | some s => some (.speech s)
  | none => (directive? line).map .directive

/-- Whether a trimmed line spells a directive: its tag, perhaps blanks, and its value, which is trimmed. -/
def Directive.IsSpelled (d : Directive) (s : List Char) : Prop :=
  Text.trim d.value.toList = d.value.toList ∧
    ∃ gap, Text.Blanks gap ∧ s = d.kind.tag ++ gap ++ d.value.toList

/-! ### Marks in front of lines -/

/-- At most one tag starts a text. -/
theorem DirectiveKind.eq_of_tag_isPrefix {k k' : DirectiveKind} {s : List Char} (h : k.tag <+: s)
    (h' : k'.tag <+: s) : k = k' := by
  have htags : ∀ k k' : DirectiveKind, k.tag <+: k'.tag → k = k' := by
    intro k k'
    cases k <;> cases k' <;> decide
  rcases List.prefix_or_prefix_of_prefix h h' with h | h
  · exact htags k k' h
  · exact (htags k' k h).symm

theorem isStructuralTrimmed_iff {s : List Char} :
    isStructuralTrimmed s = true ↔
      s = [] ∨ separatorMark <+: s ∨ titleMark <+: s ∨ chapterMark <+: s := by
  simp only [isStructuralTrimmed, Bool.or_eq_true, List.isEmpty_iff, startsWith_iff, or_assoc]

/-- No tag starts a structural line. -/
theorem not_tag_isPrefix_of_isStructuralTrimmed {s : List Char} (h : isStructuralTrimmed s = true)
    (k : DirectiveKind) : ¬k.tag <+: s := by
  have hmarks : ∀ mark ∈ [separatorMark, titleMark, chapterMark], ¬k.tag <+: mark ∧ ¬mark <+: k.tag := by
    cases k <;> decide
  have hmark {mark : List Char} (hmem : mark ∈ [separatorMark, titleMark, chapterMark])
      (hs : mark <+: s) : ¬k.tag <+: s := fun htag =>
    (List.prefix_or_prefix_of_prefix htag hs).elim (hmarks mark hmem).1 (hmarks mark hmem).2
  rcases isStructuralTrimmed_iff.mp h with rfl | hs | hs | hs
  · cases k <;> decide
  · exact hmark (by decide) hs
  · exact hmark (by decide) hs
  · exact hmark (by decide) hs

/-! ### Tags and what follows them -/

theorem tagged?_eq_some_iff {s rest : List Char} {k : DirectiveKind} :
    tagged? s = some (k, rest) ↔ s = k.tag ++ rest := by
  have hsound {k : DirectiveKind} {rest : List Char} (h : tagged? s = some (k, rest)) :
      s = k.tag ++ rest := by
    obtain ⟨k', -, hk'⟩ := List.exists_of_findSome?_eq_some h
    obtain ⟨rest', hafter, hpair⟩ := Option.map_eq_some_iff.mp hk'
    obtain ⟨rfl, rfl⟩ := Prod.mk.inj hpair
    exact Text.after?_eq_some_iff.mp hafter
  refine ⟨hsound, fun h => ?_⟩
  -- some tag is found, and it can be no other
  have hsome : (tagged? s).isSome = true := by
    refine List.findSome?_isSome_iff.mpr ⟨k, by cases k <;> decide, ?_⟩
    rw [Text.after?_eq_some_iff.mpr h]
    rfl
  obtain ⟨⟨k', rest'⟩, hfound⟩ := Option.isSome_iff_exists.mp hsome
  have hs := hsound hfound
  obtain rfl := DirectiveKind.eq_of_tag_isPrefix ⟨rest', hs.symm⟩ ⟨rest, h.symm⟩
  rw [hfound, List.append_cancel_left (hs.symm.trans h)]

/-- A line gives a directive if and only if it spells it. -/
theorem directive?_eq_some_iff {line : List Char} {d : Directive} :
    directive? line = some d ↔ d.IsSpelled (Text.trim line) := by
  simp only [directive?, Option.map_eq_some_iff, Prod.exists, tagged?_eq_some_iff]
  constructor
  · rintro ⟨k, rest, hline, rfl⟩
    obtain ⟨gap, after, hgap, hafter, hrest⟩ := Text.exists_eq_append_trim rest
    -- nothing is trimmed behind the value, since the line is trimmed there
    have hnil : after = [] := by
      have htrim := Text.trim_trim line
      rw [hline, hrest, ← List.append_assoc] at htrim
      exact Text.eq_nil_of_trim_append_self htrim hafter
    rw [hnil, List.append_nil] at hrest
    simp only [Directive.IsSpelled, String.toList_ofList, Text.trim_trim, true_and]
    exact ⟨gap, hgap, by rw [List.append_assoc, ← hrest, hline]⟩
  · rintro ⟨hvalue, gap, hgap, hline⟩
    refine ⟨d.kind, gap ++ d.value.toList, by rw [hline, List.append_assoc], ?_⟩
    rw [Text.trim_append_left hgap, hvalue, String.ofList_toList]

theorem directive?_eq_none_of_isStructural {line : List Char} (h : isStructural line = true) :
    directive? line = none := by
  rw [Option.eq_none_iff_forall_ne_some]
  intro d hd
  obtain ⟨-, gap, -, hline⟩ := directive?_eq_some_iff.mp hd
  exact not_tag_isPrefix_of_isStructuralTrimmed h d.kind ⟨gap ++ d.value.toList, by simp [hline]⟩

/-! ### The three kinds -/

theorem isSome_speech?_iff {line : List Char} :
    (speech? line).isSome = true ↔ isStructural line = false ∧ directive? line = none := by
  simp only [Option.isSome_iff_exists, speech?_eq_some_iff, exists_and_left, exists_eq', and_true]

/-- A line adds nothing to the script if and only if it is structural. -/
theorem content?_eq_none_iff {line : List Char} : content? line = none ↔ isStructural line = true := by
  cases hs : isStructural line with
  | true =>
    have hspeech : speech? line = none := by simp [speech?, hs]
    simp [content?, directive?_eq_none_of_isStructural hs, hspeech]
  | false =>
    cases hd : directive? line with
    | some d => simp [content?, hd]
    | none =>
      obtain ⟨s, hs⟩ := Option.isSome_iff_exists.mp (isSome_speech?_iff.mpr ⟨hs, hd⟩)
      simp [content?, hd, hs]

/-- It does not matter whether a line is asked as speech or as a directive first. -/
theorem speechFirst?_eq_content? (line : List Char) : speechFirst? line = content? line := by
  cases hs : speech? line with
  | none => cases hd : directive? line <;> simp [speechFirst?, content?, hs, hd]
  | some s => simp [speechFirst?, hs, content?_eq_speech_iff.mpr hs]

theorem existsUnique_fits (line : List Char) : ∃! kind, LineKind.Fits line kind := by
  cases hs : isStructural line with
  | true =>
    refine ⟨.structural, hs, fun kind hkind => ?_⟩
    cases kind with
    | structural => rfl
    | directive => simp [LineKind.Fits, directive?_eq_none_of_isStructural hs] at hkind
    | speech => simp [LineKind.Fits, isSome_speech?_iff, hs] at hkind
  | false =>
    cases hd : directive? line with
    | some d =>
      refine ⟨.directive, by simp [LineKind.Fits, hd], fun kind hkind => ?_⟩
      cases kind with
      | structural => simp [LineKind.Fits, hs] at hkind
      | directive => rfl
      | speech => simp [LineKind.Fits, isSome_speech?_iff, hd] at hkind
    | none =>
      refine ⟨.speech, isSome_speech?_iff.mpr ⟨hs, hd⟩, fun kind hkind => ?_⟩
      cases kind with
      | structural => simp [LineKind.Fits, hs] at hkind
      | directive => simp [LineKind.Fits, hd] at hkind
      | speech => rfl

/-- **The kinds of lines partition all lines.**  A line is of exactly one kind, and it adds to the script
what its kind gives: nothing, its directive or its speech, in whichever order it is asked.  At most one tag
starts it, and its directive is spelled by the tag, perhaps blanks, and the trimmed value. -/
theorem line_kinds_partition (line : List Char) :
    (∃! kind, LineKind.Fits line kind) ∧
      (content? line = none ↔ isStructural line = true) ∧
      (∀ d, content? line = some (.directive d) ↔ directive? line = some d) ∧
      (∀ s, content? line = some (.speech s) ↔ speech? line = some s) ∧
      speechFirst? line = content? line ∧
      {kind : DirectiveKind | kind.tag <+: Text.trim line}.Subsingleton ∧
      ∀ d, directive? line = some d ↔ d.IsSpelled (Text.trim line) :=
  ⟨existsUnique_fits line, content?_eq_none_iff, fun _ => content?_eq_directive_iff,
    fun _ => content?_eq_speech_iff, speechFirst?_eq_content? line,
    fun _ h _ h' => DirectiveKind.eq_of_tag_isPrefix h h', fun _ => directive?_eq_some_iff⟩

/-- A tag alone spells a directive without value, and a line feed within a line counts as any blank. -/
example :
    [" 【SE】　", "\n【背景】\n海 辺", "---【背景】"].map (fun line => content? line.toList) =
      [some (.directive ⟨.se, ""⟩), some (.directive ⟨.background, "海 辺"⟩), none] := by
  decide

end Daihon.Script

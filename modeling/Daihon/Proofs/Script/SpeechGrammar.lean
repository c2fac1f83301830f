import Daihon.Proofs.Script.Kinds

/-!
# The grammar of speech

A line of speech is read by the first of four rules that fits it: a speaker header is a short name, a
monologue header holds the mark of monologues, a quoted line stands in quotes, and everything else is prose
(`Speech.IsRead`).  Every line of speech is read in exactly one way, which is the one the grammar gives
(`speech_line_grammar`); only the bare mark gives neither a character nor a text.

The first place of a mark in a text is the one at which the text is cut (`cut?_eq_some_iff`), and a trimmed
line is a speaker header exactly if it is a name (`isSpeakerHeader_iff`).
-/

namespace Daihon

/-! ### The first place of a mark -/

namespace Text

variable {mark s before after : List Char}

/-- Whether `mark` stands in `s` between `before` and `after`, and nowhere before that. -/
structure FirstMark (mark s before after : List Char) : Prop where
  split : s = before ++ mark ++ after
  first : ∀ before' after', s = before' ++ mark ++ after' → before.length ≤ before'.length

theorem FirstMark.unique (h : FirstMark mark s before after) {before' after' : List Char}
    (h' : FirstMark mark s before' after') : before = before' ∧ after = after' := by
  have hlen : before.length = before'.length :=
    Nat.le_antisymm (h.first _ _ h'.split) (h'.first _ _ h.split)
  have hsplit := h.split.symm.trans h'.split
  rw [List.append_assoc, List.append_assoc] at hsplit
  obtain ⟨hbefore, hrest⟩ := List.append_inj hsplit hlen
  exact ⟨hbefore, List.append_cancel_left hrest⟩

/-- A mark that stands in `s` behind its first character and not before stands there also in all of it. -/
theorem FirstMark.cons {c : Char} (h : FirstMark mark s before after) (hc : ¬mark <+: c :: s) :
    FirstMark mark (c :: s) (c :: before) after where
  split := by rw [h.split]; rfl
  first before' after' hsplit := by
    cases before' with
    | nil => exact absurd ⟨after', hsplit.symm⟩ hc
    | cons d before' =>
      have htail := h.first before' after' (List.cons.inj hsplit).2
      simpa using htail

theorem firstMark_of_isPrefix {rest : List Char} (h : s = mark ++ rest) : FirstMark mark s [] rest :=
  ⟨h, fun _ _ _ => Nat.zero_le _⟩

theorem cut?_sound (h : cut? mark s = some (before, after)) : FirstMark mark s before after := by
  induction s generalizing before with
  | nil =>
    rw [cut?] at h
    split at h
    · next hmark =>
      obtain ⟨rfl, rfl⟩ := Prod.mk.inj (Option.some.inj h)
      rw [List.isEmpty_iff.mp hmark]
      exact firstMark_of_isPrefix rfl
    · cases h
  | cons c s ih =>
    rw [cut?] at h
    cases hafter : after? mark (c :: s) with
    | some rest =>
      simp only [hafter, Option.some.injEq, Prod.mk.injEq] at h
      obtain ⟨rfl, rfl⟩ := h
      exact firstMark_of_isPrefix (after?_eq_some_iff.mp hafter)
    | none =>
      simp only [hafter, Option.map_eq_some_iff, Prod.mk.injEq, Prod.exists] at h
      obtain ⟨before', after', h, rfl, rfl⟩ := h
      exact (ih h).cons (Script.after?_eq_none_iff.mp hafter)

theorem isSome_cut?_of_eq (h : s = before ++ mark ++ after) : (cut? mark s).isSome = true := by
  induction before generalizing s with
  | nil =>
    have hafter : after? mark s = some after := after?_eq_some_iff.mpr h
    cases s with
    | nil =>
      obtain ⟨hmark, -⟩ := List.append_eq_nil_iff.mp h.symm
      simp_all [cut?]
    | cons c s => simp [cut?, hafter]
  | cons c before ih =>
    obtain ⟨s, rfl⟩ : ∃ t, s = c :: t := ⟨_, h⟩
    have htail := ih (List.cons.inj h).2
    rw [cut?]
    split
    · rfl
    · rw [Option.isSome_map]
      exact htail

/-- A text is cut at the first place of the mark. -/
theorem cut?_eq_some_iff : cut? mark s = some (before, after) ↔ FirstMark mark s before after := by
  refine ⟨cut?_sound, fun h => ?_⟩
  obtain ⟨⟨before', after'⟩, hcut⟩ := Option.isSome_iff_exists.mp (isSome_cut?_of_eq h.split)
  obtain ⟨rfl, rfl⟩ := h.unique (cut?_sound hcut)
  exact hcut

theorem contains_iff : contains mark s = true ↔ mark <:+: s := by
  constructor
  · intro h
    obtain ⟨⟨before, after⟩, hcut⟩ := Option.isSome_iff_exists.mp h
    exact ⟨before, after, (cut?_sound hcut).split.symm⟩
  · rintro ⟨before, after, rfl⟩
    exact isSome_cut?_of_eq rfl

theorem exists_firstMark (h : mark <:+: s) : ∃ before after, FirstMark mark s before after := by
  obtain ⟨⟨before, after⟩, hcut⟩ := Option.isSome_iff_exists.mp (contains_iff.mpr h)
  exact ⟨before, after, cut?_sound hcut⟩

end Text

namespace Script

/-! ### The rules of speech -/

/-- Whether a text is a name that may head a speech: it is neither empty nor too long, and holds neither
blanks nor punctuation. -/
def IsName (s : List Char) : Prop :=
  1 ≤ s.length ∧ s.length ≤ maxNameLength ∧ ∀ c ∈ s, Text.isBlank c = false ∧ c ∉ namePunctuation

/-- How a trimmed line is read as speech: by the first rule that fits. -/
inductive Speech.IsRead (s : List Char) : Speech → Prop where
  | speaker (hname : IsName s) : IsRead s ⟨.ofList s, "", false⟩
  | monologue {before after : List Char} (hname : ¬IsName s)
      (hmark : Text.FirstMark monologueMark s before after) :
      IsRead s ⟨.ofList (Text.trim (before ++ after)), "", true⟩
  | quoted {text : List Char} (hname : ¬IsName s) (hmark : ¬monologueMark <:+: s) (hne : text ≠ [])
      (hquotes : s = openQuote :: text ++ [closeQuote]) : IsRead s ⟨"", .ofList text, false⟩
  | prose (hname : ¬IsName s) (hmark : ¬monologueMark <:+: s)
      (hquotes : ∀ text, text ≠ [] → s ≠ openQuote :: text ++ [closeQuote]) :
      IsRead s ⟨"", .ofList s, true⟩

theorem isNameChar_iff {c : Char} :
    isNameChar c = true ↔ Text.isBlank c = false ∧ c ∉ namePunctuation := by
  simp [isNameChar]

theorem IsName.not_mark_isInfix {s : List Char} (h : IsName s) : ¬monologueMark <:+: s := by
  intro hmark
  have hmem : '（' ∈ s := hmark.subset (by decide)
  exact (h.2.2 _ hmem).2 (by decide)

/-- A trimmed line is a speaker header exactly if it is a name. -/
theorem isSpeakerHeader_iff {s : List Char} (hs : Text.trim s = s) :
    isSpeakerHeader s = true ↔ IsName s := by
  simp only [isSpeakerHeader, Bool.and_eq_true, Bool.not_eq_true', decide_eq_true_eq,
    List.isEmpty_eq_false_iff, List.all_eq_true]
  constructor
  · rintro ⟨⟨⟨-, hlen⟩, hne⟩, hblanks⟩
    -- the blanks that may follow the name have been trimmed away
    have hsplit := List.takeWhile_append_dropWhile (p := isNameChar) (l := s)
    have hnil : s.dropWhile isNameChar = [] := by
      rw [← hsplit] at hs
      exact Text.eq_nil_of_trim_append_self hs hblanks
    rw [hnil, List.append_nil] at hsplit
    refine ⟨?_, hlen, fun c hc => ?_⟩
    · rw [← hsplit]
      exact List.length_pos_iff.mpr hne
    · rw [← hsplit] at hc
      exact isNameChar_iff.mp (List.mem_takeWhile_imp hc)
  · intro h
    have hall : ∀ c ∈ s, isNameChar c = true := fun c hc => isNameChar_iff.mpr (h.2.2 c hc)
    have hmark : Text.contains monologueMark s = false := by
      rw [← Bool.not_eq_true, Text.contains_iff]
      exact h.not_mark_isInfix
    rw [List.takeWhile_eq_self_iff.mpr hall, List.dropWhile_eq_nil_iff.mpr hall]
    exact ⟨⟨⟨hmark, h.2.1⟩, List.length_pos_iff.mp h.1⟩, List.forall_mem_nil _⟩

theorem quoted?_eq_some_iff {s text : List Char} :
    quoted? s = some text ↔ text ≠ [] ∧ s = openQuote :: text ++ [closeQuote] := by
  refine ⟨quoted?_eq_some, ?_⟩
  rintro ⟨hne, rfl⟩
  have hlen := List.length_pos_iff.mpr hne
  have hlast : (openQuote :: text ++ [closeQuote]).getLast? = some closeQuote := List.getLast?_concat
  rw [quoted?, if_pos]
  · exact congrArg some List.dropLast_concat
  · rw [hlast]
    simp [hlen]

/-- What is read from a trimmed line is what the grammar gives. -/
theorem isRead_speechOf {s : List Char} (hs : Text.trim s = s) : (speechOf s).IsRead s := by
  unfold speechOf
  split
  · next h => exact .speaker ((isSpeakerHeader_iff hs).mp h)
  · next h =>
    have hname : ¬IsName s := fun hname => h ((isSpeakerHeader_iff hs).mpr hname)
    split
    · next hmark =>
      obtain ⟨before, after, hfirst⟩ := Text.exists_firstMark (Text.contains_iff.mp hmark)
      have hremove : Text.removeFirst monologueMark s = before ++ after := by
        rw [Text.removeFirst, Text.cut?_eq_some_iff.mpr hfirst]
      rw [hremove]
      exact .monologue hname hfirst
    · next hmark =>
      rw [Text.contains_iff] at hmark
      split
      · next text hquoted =>
        obtain ⟨hne, hquotes⟩ := quoted?_eq_some hquoted
        exact .quoted hname hmark hne hquotes
      · next hquoted =>
        refine .prose hname hmark fun text hne hquotes => ?_
        rw [quoted?_eq_some_iff.mpr ⟨hne, hquotes⟩] at hquoted
        cases hquoted

theorem Speech.IsRead.unique {s : List Char} {r r' : Speech} (h : r.IsRead s) (h' : r'.IsRead s) :
    r = r' := by
  cases h with
  | speaker hname =>
    cases h' with
    | speaker => rfl
    | monologue hname' | quoted hname' | prose hname' => exact absurd hname hname'
  | monologue hname hmark =>
    have hin : monologueMark <:+: s := ⟨_, _, hmark.split.symm⟩
    cases h' with
    | speaker hname' => exact absurd hname' hname
    | monologue _ hmark' =>
      obtain ⟨rfl, rfl⟩ := hmark.unique hmark'
      rfl
    | quoted _ hmark' | prose _ hmark' => exact absurd hin hmark'
  | quoted hname hmark hne hquotes =>
    cases h' with
    | speaker hname' => exact absurd hname' hname
    | monologue _ hmark' => exact absurd ⟨_, _, hmark'.split.symm⟩ hmark
    | quoted _ _ _ hquotes' =>
      have htext := List.append_cancel_right (hquotes.symm.trans hquotes')
      rw [(List.cons.inj htext).2]
    | prose _ _ hquotes' => exact absurd hquotes (hquotes' _ hne)
  | prose hname hmark hquotes =>
    cases h' with
    | speaker hname' => exact absurd hname' hname
    | monologue _ hmark' => exact absurd ⟨_, _, hmark'.split.symm⟩ hmark
    | quoted _ _ hne hquotes' => exact absurd hquotes' (hquotes _ hne)
    | prose => rfl

/-! ### Characters and texts -/

/-- Without its mark a monologue header is empty only if it is the bare mark. -/
theorem trim_append_eq_nil_iff {s before after : List Char} (hs : Text.trim s = s)
    (h : Text.FirstMark monologueMark s before after) :
    Text.trim (before ++ after) = [] ↔ s = monologueMark := by
  rw [Text.trim_eq_nil_iff]
  constructor
  · intro hblanks
    have hbefore : Text.Blanks before := fun c hc => hblanks c (List.mem_append_left _ hc)
    have hafter : Text.Blanks after := fun c hc => hblanks c (List.mem_append_right _ hc)
    calc s = Text.trim (before ++ monologueMark ++ after) := by rw [← h.split, hs]
      _ = Text.trim monologueMark := Text.trim_append_append hbefore hafter _
      _ = monologueMark := by decide
  · intro hbare
    have hlen := congrArg List.length (hbare.symm.trans h.split)
    simp only [List.length_append] at hlen
    obtain rfl : before = [] := List.length_eq_zero_iff.mp (by omega)
    obtain rfl : after = [] := List.length_eq_zero_iff.mp (by omega)
    exact Text.blanks_nil

/-- What is read from a line never has both a character and a text, and it has none of them only if the line
is the bare mark of monologues; it is a header if it has a character. -/
theorem Speech.IsRead.character_or_text {s : List Char} (hs : Text.trim s = s) (hne : s ≠ [])
    {r : Speech} (h : r.IsRead s) :
    (r.character = "" ∨ r.text = "") ∧ (r.character = "" ∧ r.text = "" ↔ s = monologueMark) ∧
      (r.character ≠ "" → IsName s ∨ monologueMark <:+: s) ∧
      (IsName s ∨ monologueMark <:+: s → r.text = "") := by
  cases h with
  | speaker hname =>
    have hbare : s ≠ monologueMark := fun hbare => hname.not_mark_isInfix (hbare ▸ List.infix_rfl)
    simp [hne, hbare, hname]
  | monologue hname hmark =>
    have hin : monologueMark <:+: s := ⟨_, _, hmark.split.symm⟩
    have hempty := trim_append_eq_nil_iff hs hmark
    simp [hin, hempty]
  | quoted hname hmark htext hquotes =>
    have hbare : s ≠ monologueMark := fun hbare => hmark (hbare ▸ List.infix_rfl)
    simp [hname, hmark, htext, hbare]
  | prose hname hmark hquotes =>
    have hbare : s ≠ monologueMark := fun hbare => hmark (hbare ▸ List.infix_rfl)
    simp [hname, hmark, hne, hbare]

/-- Only by the first rule does speech that is no monologue have a character. -/
theorem Speech.IsRead.isName {s : List Char} {r : Speech} (h : r.IsRead s) (hcharacter : r.character ≠ "")
    (hmonologue : r.isMonologue = false) : IsName s := by
  cases h with
  | speaker hname => exact hname
  | monologue => cases hmonologue
  | quoted | prose => exact absurd rfl hcharacter

theorem Speech.isHeader_iff {r : Speech} : r.isHeader = true ↔ r.character ≠ "" ∧ r.text = "" := by
  simp [Speech.isHeader]

/-- **The grammar of speech.**  A line that is neither structural nor a directive is read as speech in exactly
the one way that the grammar gives it.  It is read as a speaker header if and only if it is a name.  What is
read has a character or a text but not both, unless the line is the bare mark of monologues, and it is a
header if it comes by the rules for speakers or monologues and has a character. -/
theorem speech_line_grammar (line : List Char) (hline : isStructural line = false)
    (hdirective : directive? line = none) :
    ∃ r, speech? line = some r ∧
      (∀ r' : Speech, r'.IsRead (Text.trim line) ↔ r' = r) ∧
      (r = ⟨.ofList (Text.trim line), "", false⟩ ↔ IsName (Text.trim line)) ∧
      ¬(r.character ≠ "" ∧ r.text ≠ "") ∧
      (r.character = "" ∧ r.text = "" ↔ Text.trim line = monologueMark) ∧
      (Text.trim line ≠ monologueMark → (r.character ≠ "" ↔ r.text = "")) ∧
      (r.isHeader = true ↔
        (IsName (Text.trim line) ∨ monologueMark <:+: Text.trim line) ∧ r.character ≠ "") := by
  have hs := Text.trim_trim line
  have hne := trim_ne_nil_of_not_isStructural hline
  have hread := isRead_speechOf hs
  obtain ⟨hone, hbare, hheader, htext⟩ := hread.character_or_text hs hne
  refine ⟨_, speech?_eq_some_iff.mpr ⟨hline, hdirective, rfl⟩, fun r' => ?_, ?_, ?_, hbare, ?_, ?_⟩
  · exact ⟨fun h => h.unique hread, fun h => h ▸ hread⟩
  · refine ⟨fun hspeaker => ?_, fun hname => hread.unique (.speaker hname)⟩
    rw [hspeaker] at hread
    exact hread.isName (by simpa using hne) rfl
  · exact fun hboth => hone.elim hboth.1 hboth.2
  · intro hbareNot
    exact ⟨fun hcharacter => hone.resolve_left hcharacter,
      fun hempty hcharacter => hbareNot (hbare.mp ⟨hcharacter, hempty⟩)⟩
  · rw [Speech.isHeader_iff]
    exact ⟨fun h => ⟨hheader h.1, h.1⟩, fun h => ⟨h.2, htext h.1⟩⟩

/-- Quotes around the mark of monologues make a monologue header, whose name is the quotes. -/
theorem speech_line_grammar_quoted_mark :
    isStructural "　「（モノローグ）」 ".toList = false ∧ directive? "　「（モノローグ）」 ".toList = none ∧
      speech? "　「（モノローグ）」 ".toList = some ⟨"「」", "", true⟩ ∧
      ∀ r : Speech, r.IsRead "「（モノローグ）」".toList ↔ r = ⟨"「」", "", true⟩ := by
  have hline : isStructural "　「（モノローグ）」 ".toList = false := by decide
  have hdirective : directive? "　「（モノローグ）」 ".toList = none := by decide
  have hspeech : speech? "　「（モノローグ）」 ".toList = some ⟨"「」", "", true⟩ := by decide
  have htrim : Text.trim "　「（モノローグ）」 ".toList = "「（モノローグ）」".toList := by decide
  obtain ⟨r, hr, hread, -⟩ := speech_line_grammar _ hline hdirective
  obtain rfl := Option.some.inj (hspeech.symm.trans hr)
  rw [htrim] at hread
  exact ⟨hline, hdirective, hspeech, hread⟩

/-- A name has at most fifteen characters, empty quotes quote nothing, and only the first mark is taken
away. -/
example :
    ["一二三四五六七八九十一二三四五", "一二三四五六七八九十一二三四五六", "「」",
        "（モノローグ）（モノローグ）"].map (fun line => speech? line.toList) =
      [some ⟨"一二三四五六七八九十一二三四五", "", false⟩, some ⟨"", "一二三四五六七八九十一二三四五六", true⟩,
        some ⟨"", "「」", true⟩, some ⟨"（モノローグ）", "", true⟩] := by
  decide

end Script

end Daihon

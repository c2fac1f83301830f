import Daihon.Proofs.Script.ItemGrammar

/-!
# Written choice blocks

A choice block is written line by line: each of its entries behind a bullet, with blanks around the line, and
any lines between them that are passed over.  Only in front of the first entry may blank lines stand.  The
block reads back as its entries, numbered from 1 (`block_reads_back`).

An entry reads back from its line (`item?_entry`, `ofItem_chars`), and the lines are gone through with the
number of the entries that have been read (`choicesFrom_rows`).
-/

namespace Daihon.Script

/-- An entry of a choice block: its parts are trimmed and hold nothing that would end them early. -/
structure Entry where
  text : List Char
  target : Option (List Char)
  route : Option (List Char)
  text_ne_nil : text ≠ []
  text_trimmed : Text.trim text = text
  text_plain : '\n' ∉ text ∧ arrow ∉ text ∧ NoBrackets text
  target_trimmed : ∀ t ∈ target, Text.trim t = t
  target_plain : ∀ t ∈ target, '\n' ∉ t ∧ NoBrackets t
  route_ne_nil : ∀ r ∈ route, r ≠ []
  route_plain : ∀ r ∈ route, '\n' ∉ r ∧ NoBrackets r

/-- An entry as it is written. -/
def Entry.chars (e : Entry) : List Char :=
  e.text ++ targetChars e.target ++ routeChars e.route

/-- The choice that an entry stands for. -/
def Entry.choice (e : Entry) (number : Nat) : Choice :=
  { id := s!"choice_{number}"
    text := .ofList e.text
    nextScene := .ofList (e.target.getD [])
    routeChange := e.route.map String.ofList }

/-- Whether a line is passed over: it is not blank, and it is a mark or does not fit the pattern of items. -/
def IsPassedOver (line : List Char) : Prop :=
  ¬Text.Blanks line ∧ (IsBlockMark (Text.trim line) ∨ ∀ text, ¬FitsItem (Text.trim line) text)

/-- A line of a block: one that is passed over, or an entry behind a bullet, with blanks around. -/
inductive Row where
  | passed (line : List Char) (h : IsPassedOver line)
  | entry (e : Entry) (bullet before after : List Char) (hbullet : IsBullet bullet)
      (hbefore : Text.Blanks before) (hafter : Text.Blanks after)

/-- The line of a row. -/
def Row.line : Row → List Char
  | .passed line _ => line
  | .entry e bullet before after _ _ _ => before ++ (bullet ++ [' '] ++ e.chars) ++ after

/-- The entry of a row, if it is one. -/
def Row.entry? : Row → Option Entry
  | .passed _ _ => none
  | .entry e _ _ _ _ _ _ => some e

/-! ### One entry -/

section Entry

variable (e : Entry)

theorem targetChars_trimmed {target : Option (List Char)} (h : ∀ t ∈ target, Text.trim t = t) :
    Text.trim (targetChars target) = targetChars target := by
  cases target with
  | none => rfl
  | some t => exact Text.trim_append_of_trimmed (a := [arrow]) (by decide) (by decide) (h t rfl)

theorem routeChars_trimmed (route : Option (List Char)) :
    Text.trim (routeChars route) = routeChars route := by
  cases route with
  | none => rfl
  | some r =>
    exact Text.trim_append_append_of_trimmed (a := [openRoute]) (by decide) (by decide) r (by decide)
      (by decide)

theorem Entry.chars_trimmed : Text.trim e.chars = e.chars := by
  have htext := Text.trim_append_of_trimmed e.text_trimmed e.text_ne_nil
    (targetChars_trimmed e.target_trimmed)
  exact Text.trim_append_of_trimmed htext (by simp [e.text_ne_nil]) (routeChars_trimmed e.route)

theorem Entry.chars_ne_nil : e.chars ≠ [] := by
  simp [Entry.chars, e.text_ne_nil]

theorem Entry.lineFeed_notMem_chars : '\n' ∉ e.chars := by
  have htarget : '\n' ∉ targetChars e.target := by
    cases h : e.target with
    | none => exact List.not_mem_nil
    | some t =>
      have := (e.target_plain t h).1
      rw [targetChars, List.mem_cons, not_or]
      exact ⟨by decide, this⟩
  have hroute : '\n' ∉ routeChars e.route := by
    cases h : e.route with
    | none => exact List.not_mem_nil
    | some r =>
      have := (e.route_plain r h).1
      rw [routeChars, List.mem_append, List.mem_cons, not_or, not_or]
      exact ⟨⟨by decide, this⟩, by decide⟩
  rw [Entry.chars, List.mem_append, List.mem_append, not_or, not_or]
  exact ⟨⟨e.text_plain.1, htarget⟩, hroute⟩

theorem Entry.isRouted : IsRouted e.chars (e.text ++ targetChars e.target) e.route := by
  have hfree : NoBrackets (e.text ++ targetChars e.target) :=
    e.text_plain.2.2.append (noBrackets_targetChars fun t ht => (e.target_plain t ht).2)
  cases h : e.route with
  | some r =>
    refine .route (by simp [e.text_ne_nil]) (e.route_ne_nil r h) (e.route_plain r h).2 ?_
    rw [Entry.chars, h]
    simp [routeChars]
  | none =>
    have hchars : e.chars = e.text ++ targetChars e.target := by
      rw [Entry.chars, h, routeChars, List.append_nil]
    rw [← hchars] at hfree ⊢
    refine .none fun p r _ _ _ hsplit => ?_
    have := hfree openRoute (by rw [hsplit]; simp)
    exact absurd this (by decide)

theorem Entry.isAimed : IsAimed (e.text ++ targetChars e.target) e.text e.target := by
  -- no arrow stands in the text
  have hno (p : List Char) (j : Nat) (hj : j < e.text.length) : ¬IsTargetArrow (e.text ++ p) j := by
    intro harrow
    have := harrow.2.1
    rw [List.getElem?_append_left hj] at this
    exact e.text_plain.2.1 (List.mem_of_getElem? this)
  cases h : e.target with
  | some t =>
    have harrow : IsTargetArrow (e.text ++ targetChars (some t)) e.text.length :=
      isTargetArrow_of_eq e.text_ne_nil (e.target_plain t h).2 Text.blanks_nil (List.append_nil _).symm
    have haimed := IsAimed.target harrow fun j hj => hno _ j hj
    rw [List.take_left, ← List.drop_drop, List.drop_left] at haimed
    exact haimed
  | none =>
    rw [targetChars, List.append_nil]
    refine .none fun i harrow => ?_
    have := hno [] i (lt_length_of_isTargetArrow harrow)
    rw [List.append_nil] at this
    exact this harrow

theorem ofItem_chars (number : Nat) : Choice.ofItem number e.chars = e.choice number := by
  rw [ofItem_of_isAimed e.chars_trimmed e.chars_ne_nil e.isRouted e.isAimed, Parts.choice, Entry.choice]
  have htarget : Text.trim (e.target.getD []) = e.target.getD [] := by
    cases h : e.target with
    | none => rfl
    | some t => exact e.target_trimmed t h
  rw [e.text_trimmed, htarget]

end Entry

/-! ### One row -/

theorem isBlank_of_isDigit {c : Char} (h : Decimal.isDigit c = true) : Text.isBlank c = false := by
  rw [Decimal.isDigit, Bool.and_eq_true, decide_eq_true_eq, decide_eq_true_eq, Char.le_def, Char.le_def,
    UInt32.le_iff_toNat_le, UInt32.le_iff_toNat_le] at h
  have hlow : 48 ≤ c.toNat := h.1
  have hhigh : c.toNat ≤ 57 := h.2
  simp only [Text.isBlank, Bool.or_eq_false_iff, Bool.and_eq_false_iff, decide_eq_false_iff_not,
    beq_eq_false_iff_ne]
  omega

theorem IsBullet.trimmed {bullet : List Char} (h : IsBullet bullet) : Text.trim bullet = bullet := by
  cases h with
  | number hne hdigits =>
    rw [Text.trim_eq_self_iff]
    refine ⟨fun c hc => ?_, fun c hc => ?_⟩
    · rw [List.head?_append_of_ne_nil _ hne] at hc
      exact isBlank_of_isDigit (hdigits c (List.mem_of_head? hc))
    · rw [List.getLast?_concat] at hc
      obtain rfl := Option.some.inj hc
      decide
  | dash => decide
  | star => decide

theorem IsBullet.ne_nil {bullet : List Char} (h : IsBullet bullet) : bullet ≠ [] := by
  cases h <;> simp

/-- With a blank behind it, a bullet starts no mark. -/
theorem IsBullet.not_isBlockMark {bullet : List Char} (h : IsBullet bullet) (rest : List Char) :
    ¬IsBlockMark (bullet ++ [' '] ++ rest) := by
  cases h with
  | number hne hdigits =>
    next digits =>
    obtain ⟨d, ds, rfl⟩ := List.exists_cons_of_ne_nil hne
    have hd := hdigits d List.mem_cons_self
    rintro (⟨t, ht⟩ | ⟨t, ht⟩)
    · obtain rfl := (List.cons.inj ht).1
      exact absurd hd (by decide)
    · obtain rfl := (List.cons.inj ht).1
      exact absurd hd (by decide)
  | dash => simp [IsBlockMark, choiceHeaderMark, separatorMark]
  | star => simp [IsBlockMark, choiceHeaderMark, separatorMark]

theorem item?_of_isPassedOver {line : List Char} (h : IsPassedOver line) : item? (Text.trim line) = none := by
  rw [Option.eq_none_iff_forall_ne_some]
  intro item hitem
  obtain ⟨hmark, text, hfits, -⟩ := (item?_eq_some_iff (Text.trim_trim line)).mp hitem
  exact h.2.elim hmark fun hno => hno text hfits

/-- The line of an entry is an item, and the item is the entry as it is written. -/
theorem item?_entry (e : Entry) {bullet before after : List Char} (hbullet : IsBullet bullet)
    (hbefore : Text.Blanks before) (hafter : Text.Blanks after) :
    item? (Text.trim (Row.entry e bullet before after hbullet hbefore hafter).line) = some e.chars := by
  have hline : Text.trim (bullet ++ [' '] ++ e.chars) = bullet ++ [' '] ++ e.chars :=
    Text.trim_append_append_of_trimmed hbullet.trimmed hbullet.ne_nil _ e.chars_trimmed e.chars_ne_nil
  rw [Row.line, Text.trim_append_append hbefore hafter, hline, item?_eq_some_iff hline]
  have hfits : FitsItem (bullet ++ [' '] ++ e.chars) e.chars :=
    ⟨bullet, [' '], hbullet, by decide, e.chars_ne_nil, e.lineFeed_notMem_chars, rfl⟩
  exact ⟨hbullet.not_isBlockMark _, e.chars, hfits, e.chars_trimmed.symm⟩

/-! ### All rows -/

theorem choicesFrom_cons_of_isPassedOver (count : Nat) {line : String} (h : IsPassedOver line.toList)
    (es : List Element) : choicesFrom count (.line line :: es) = choicesFrom count es := by
  have hne : (Text.trim line.toList).isEmpty = false := by
    rw [List.isEmpty_eq_false_iff]
    exact fun hnil => h.1 (Text.trim_eq_nil_iff.mp hnil)
  simp only [choicesFrom, Element.line?, hne, Bool.false_eq_true, if_false, item?_of_isPassedOver h]

theorem choicesFrom_cons_of_item (count : Nat) {line : String} {item : List Char}
    (h : item? (Text.trim line.toList) = some item) (es : List Element) :
    choicesFrom count (.line line :: es) =
      (choicesFrom (count + 1) es).map (Choice.ofItem (count + 1) item :: ·) := by
  have hne : (Text.trim line.toList).isEmpty = false := by
    rw [List.isEmpty_eq_false_iff]
    intro hnil
    have hnone : item? [] = none := by decide
    rw [hnil, hnone] at h
    cases h
  simp only [choicesFrom, Element.line?, hne, Bool.false_eq_true, if_false, h]

theorem choicesFrom_rows (count : Nat) (rows : List Row) :
    choicesFrom count (rows.map fun row => .line (.ofList row.line)) =
      .ok ((rows.filterMap Row.entry?).mapIdx fun i e => e.choice (count + i + 1)) := by
  induction rows generalizing count with
  | nil => rfl
  | cons row rows ih =>
    cases row with
    | passed line h =>
      rw [List.map_cons, choicesFrom_cons_of_isPassedOver _ (by simpa [Row.line] using h), ih]
      rfl
    | entry e bullet before after hbullet hbefore hafter =>
      have hitem := item?_entry e hbullet hbefore hafter
      rw [List.map_cons, choicesFrom_cons_of_item _ (by simpa using hitem), ih, ofItem_chars]
      simp [Row.entry?, Except.map, List.mapIdx_cons, Nat.add_assoc, Nat.add_comm 1]

/-- **A choice block reads back as it was written**: as its entries in order, numbered from 1, whatever lines
are passed over between them and whatever blank lines stand in front. -/
theorem block_reads_back (lead : List String) (rows : List Row)
    (hlead : ∀ line ∈ lead, Text.Blanks line.toList ∨ IsPassedOver line.toList) :
    Choice.ofLines (lead ++ rows.map fun row => .ofList row.line) =
      .ok ((rows.filterMap Row.entry?).mapIdx fun i e => e.choice (i + 1)) := by
  unfold Choice.ofLines
  induction lead with
  | nil =>
    have := choicesFrom_rows 0 rows
    simpa [Function.comp_def] using this
  | cons line lead ih =>
    have ih := ih fun l hl => hlead l (List.mem_cons_of_mem _ hl)
    rw [List.cons_append, List.map_cons, ← ih]
    rcases hlead line List.mem_cons_self with hblank | hpassed
    · simp [choicesFrom, Element.line?, Text.trim_eq_nil_iff.mpr hblank]
    · exact choicesFrom_cons_of_isPassedOver 0 hpassed _

/-- A text may look like an item, a target may hold and end with an arrow or be empty, and a route may have
blanks and arrows. -/
theorem block_reads_back_arrows :
    (∀ line ∈ ["　", "選択肢"], Text.Blanks line.toList ∨ IsPassedOver line.toList) ∧
      Choice.ofLines ["　", "選択肢", " 12. 2.東→北→［ 夜→朝 ］", "---", "＊ 西→"] =
        .ok [⟨"choice_1", "2.東", "北→", some " 夜→朝 "⟩, ⟨"choice_2", "西", "", none⟩] := by
  have hlead : ∀ line ∈ ["　", "選択肢"], Text.Blanks line.toList ∨ IsPassedOver line.toList := by
    intro line hline
    rcases List.mem_pair.mp hline with rfl | rfl
    · exact .inl (by decide)
    · exact .inr ⟨by decide, .inl (.inl (by decide))⟩
  have h := block_reads_back ["　", "選択肢"]
    [.entry ⟨"2.東".toList, some "北→".toList, some " 夜→朝 ".toList, by decide, by decide, by decide, by decide,
          by decide, by decide, by decide⟩
        ("12".toList ++ ['.']) " ".toList [] (.number (by decide) (List.all_eq_true.mp (by decide)))
        (by decide) (by decide),
      .passed "---".toList ⟨by decide, .inl (.inr (by decide))⟩,
      .entry ⟨"西".toList, some [], none, by decide, by decide, by decide, by decide, by decide, by decide,
          by decide⟩
        "＊".toList [] [] .star (by decide) (by decide)]
    hlead
  exact ⟨hlead, (congrArg Choice.ofLines (by decide)).trans (h.trans (congrArg Except.ok (by decide)))⟩

end Daihon.Script

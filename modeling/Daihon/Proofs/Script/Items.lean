import Daihon.Proofs.Text.Trimming
import Daihon.Script.Choice

/-!
# Item lines

An item line is a bullet with something behind it, unless it heads a block or separates.  The pattern of
item lines allows blanks behind the bullet and asks for a text on one line after them (`item?_eq_some_iff`);
on a line without line feeds any rest that is not empty will do (`item?_eq_some_iff_of_lineFeed_notMem`).
-/

namespace Daihon.Script

/-- The bullets of items: a row of digits with a point, a dash or a star. -/
inductive IsBullet : List Char → Prop where
  | number {digits : List Char} (hne : digits ≠ []) (hdigits : ∀ c ∈ digits, Decimal.isDigit c = true) :
      IsBullet (digits ++ ['.'])
  | dash : IsBullet ['-']
  | star : IsBullet ['＊']

/-- Whether a line is an item by the pattern: a bullet, blanks, and `text`, which stays on one line. -/
def FitsItem (s text : List Char) : Prop :=
  ∃ bullet gap, IsBullet bullet ∧ Text.Blanks gap ∧ text ≠ [] ∧ '\n' ∉ text ∧ s = bullet ++ gap ++ text

/-- Whether a trimmed line is passed over before it is looked at as an item: it heads a choice block or
separates. -/
def IsBlockMark (s : List Char) : Prop := choiceHeaderMark <+: s ∨ separatorMark <+: s

/-- Whether a trimmed line is read as an item with the text `item`: it is a bullet with something behind
it, which is the item once it is trimmed. -/
def IsItem (s item : List Char) : Prop :=
  ¬IsBlockMark s ∧ ∃ bullet rest, IsBullet bullet ∧ rest ≠ [] ∧ s = bullet ++ rest ∧ item = Text.trim rest

/-! ### Bullets -/

theorem startsWith_iff (tag s : List Char) : Text.startsWith tag s = true ↔ tag <+: s := by
  rw [Text.startsWith, Option.isSome_iff_exists]
  exact exists_congr fun rest => Text.after?_eq_some_iff.trans eq_comm

theorem after?_eq_none_iff {tag s : List Char} : Text.after? tag s = none ↔ ¬tag <+: s := by
  rw [← startsWith_iff, Text.startsWith, Bool.not_eq_true, Option.isSome_eq_false_iff,
    Option.isNone_iff_eq_none]

theorem afterBullet?_eq_some_iff {s rest : List Char} :
    afterBullet? s = some rest ↔ ∃ bullet, IsBullet bullet ∧ s = bullet ++ rest := by
  constructor
  · intro h
    have hs := List.takeWhile_append_dropWhile (p := Decimal.isDigit) (l := s)
    unfold afterBullet? at h
    split at h
    · next d ds rest' htake hdrop =>
      obtain rfl := Option.some.inj h
      refine ⟨(d :: ds) ++ ['.'], .number (List.cons_ne_nil _ _) fun c hc => ?_, ?_⟩
      · exact List.mem_takeWhile_imp (htake ▸ hc)
      · rw [← hs, htake, hdrop]
        simp
    · next rest' htake hdrop =>
      obtain rfl := Option.some.inj h
      exact ⟨['-'], .dash, by rw [← hs, htake, hdrop]; rfl⟩
    · next rest' htake hdrop =>
      obtain rfl := Option.some.inj h
      exact ⟨['＊'], .star, by rw [← hs, htake, hdrop]; rfl⟩
    · cases h
  · rintro ⟨bullet, hbullet, rfl⟩
    cases hbullet with
    | number hne hdigits =>
      next digits =>
      obtain ⟨d, ds, rfl⟩ := List.exists_cons_of_ne_nil hne
      have hpoint : Decimal.isDigit '.' = false := by decide
      rw [afterBullet?, List.append_assoc, List.takeWhile_append_of_pos hdigits,
        List.dropWhile_append_of_pos hdigits]
      simp [hpoint]
    | dash => rfl
    | star => rfl

/-! ### Texts behind bullets -/

section Trimmed

variable {s item : List Char} (hs : Text.trim s = s)
include hs

theorem bulletText?_eq_some_iff :
    bulletText? s = some item ↔ ∃ text, FitsItem s text ∧ item = Text.trim text := by
  unfold bulletText?
  constructor
  · intro h
    split at h
    · cases h
    · next rest hrest =>
      obtain ⟨bullet, hbullet, rfl⟩ := afterBullet?_eq_some_iff.mp hrest
      obtain ⟨gap, after, hgap, hafter, hsplit⟩ := Text.exists_eq_append_trim rest
      -- nothing is trimmed at the end, since the line is trimmed there
      have hnil : after = [] := by
        rw [hsplit, ← List.append_assoc] at hs
        exact Text.eq_nil_of_trim_append_self hs hafter
      rw [hnil, List.append_nil] at hsplit
      simp only [Bool.or_eq_true, List.isEmpty_iff, List.contains_iff_mem] at h
      split at h
      · cases h
      · next hne =>
        rw [not_or] at hne
        refine ⟨Text.trim rest, ⟨bullet, gap, hbullet, hgap, hne.1, hne.2, ?_⟩, ?_⟩
        · rw [List.append_assoc, ← hsplit]
        · rw [Text.trim_trim]
          exact (Option.some.inj h).symm
  · rintro ⟨text, ⟨bullet, gap, hbullet, hgap, hne, hfeed, rfl⟩, rfl⟩
    have hrest : afterBullet? (bullet ++ gap ++ text) = some (gap ++ text) :=
      afterBullet?_eq_some_iff.mpr ⟨bullet, hbullet, List.append_assoc ..⟩
    have htext : Text.trim text ≠ [] := fun hnil =>
      hne (Text.eq_nil_of_trim_append_self hs (Text.trim_eq_nil_iff.mp hnil))
    have hfeed' : '\n' ∉ Text.trim text := fun hmem => hfeed (Text.mem_of_mem_trim hmem)
    rw [hrest]
    simp [Text.trim_append_left hgap, htext, hfeed']

/-- A trimmed line is an item if it is no mark and fits the pattern of items. -/
theorem item?_eq_some_iff :
    item? s = some item ↔ ¬IsBlockMark s ∧ ∃ text, FitsItem s text ∧ item = Text.trim text := by
  rw [← bulletText?_eq_some_iff hs, IsBlockMark, ← startsWith_iff, ← startsWith_iff, item?,
    ← Bool.or_eq_true]
  split <;> simp_all

theorem item?_eq_some_iff_of_lineFeed_notMem (hfeed : '\n' ∉ s) :
    item? s = some item ↔ IsItem s item := by
  rw [item?_eq_some_iff hs, IsItem]
  refine and_congr_right fun _ => ⟨?_, ?_⟩
  · rintro ⟨text, ⟨bullet, gap, hbullet, hgap, hne, -, rfl⟩, rfl⟩
    exact ⟨bullet, gap ++ text, hbullet, by simp [hne], List.append_assoc ..,
      (Text.trim_append_left hgap _).symm⟩
  · rintro ⟨bullet, rest, hbullet, hne, rfl, rfl⟩
    exact ⟨rest, ⟨bullet, [], hbullet, Text.blanks_nil, hne, fun hmem => hfeed (by simp [hmem]),
      by simp⟩, rfl⟩

end Trimmed

end Daihon.Script

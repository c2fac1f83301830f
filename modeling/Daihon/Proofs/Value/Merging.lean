import Daihon.Proofs.Value.Tables

/-!
# Entries put over a table

A value with entries is put over a table entry by entry.  If no two of its entries have the same key, the
result has all of its entries, and of the table those whose keys it does not have (`Value.putPairs_cases`).
This holds of mappings too, whose keys need not be texts: two keys of which one is a text are the same only
if they are equal (`Value.isSameKey_text_left`).

What tables and mappings are like when they are put together is `Value.IsProper`, and a proper value put over
a table is proper again (`Value.IsProper.ofPairs_putPairs`), with the keys of both
(`Value.IsProper.hasKey_ofPairs_putPairs`).
-/

namespace Daihon

namespace Table

variable {α : Type} {t : Table α} {k : String} {a : α}

theorem mem_keys_iff : k ∈ keys t ↔ ∃ a, (k, a) ∈ t := by
  simp [keys]

theorem mem_of_get? (h : get? t k = some a) : (k, a) ∈ t := by
  obtain ⟨e, hfind, rfl⟩ := Option.map_eq_some_iff.mp h
  obtain rfl : e.1 = k := by simpa using List.find?_some hfind
  exact List.mem_of_find?_eq_some hfind

theorem get?_eq_some_iff (h : (keys t).Nodup) : get? t k = some a ↔ (k, a) ∈ t := by
  refine ⟨mem_of_get?, fun hmem => ?_⟩
  induction t with
  | nil => cases hmem
  | cons e t ih =>
    obtain ⟨hkey, ht⟩ := List.nodup_cons.mp h
    obtain rfl | hmem := List.mem_cons.mp hmem
    · rw [get?_cons, if_pos rfl]
    · have hne : e.1 ≠ k := fun hne => hkey (hne ▸ mem_keys_iff.mpr ⟨a, hmem⟩)
      rw [get?_cons, if_neg hne]
      exact ih ht hmem

end Table

namespace Value

variable {v : Value} {cur new : List (Value × Value)} {old : Table Value} {k : String}

/-! ### Keys -/

theorem isSameKey_text_left {key : Value} : (text k).isSameKey key = true ↔ key = .text k := by
  cases key with
  | text s =>
    rw [isSameKey, beq_iff_eq, text.injEq]
    exact eq_comm
  | _ => exact iff_of_false Bool.false_ne_true (by simp)

theorem isSameKey_text_right {key : Value} : key.isSameKey (text k) = true ↔ key = .text k := by
  cases key with
  | text s => rw [isSameKey, beq_iff_eq, text.injEq]
  | float x =>
    have hnumber : isSameKey (.float x) (.text k) = false := by
      cases hx : Decimal.toInt? x <;> simp [isSameKey, wholeNumber?, hx]
    rw [hnumber]
    exact iff_of_false Bool.false_ne_true (by simp)
  | _ => exact iff_of_false Bool.false_ne_true (by simp)

/-- Whether no entry has the same key as one before it. -/
def Distinct (es : List (Value × Value)) : Prop :=
  es.Pairwise fun a b => a.1.isSameKey b.1 = false

/-- Whether a value has an entry under a text. -/
def HasKey (v : Value) (k : String) : Prop :=
  ∃ es, v.pairs? = some es ∧ ∃ w, (.text k, w) ∈ es

/-- Whether a value is put together as tables and mappings are: no two of its entries have the same key, and
it is what its entries make. -/
def IsProper (v : Value) : Prop :=
  ∀ es, v.pairs? = some es → Distinct es ∧ ofPairs es = v

/-! ### Putting an entry -/

theorem putPair_of_new {key : Value} (h : ∀ e ∈ cur, e.1.isSameKey key = false) (w : Value) :
    putPair cur key w = cur ++ [(key, w)] := by
  induction cur with
  | nil => rfl
  | cons e cur ih =>
    obtain ⟨hfirst, hrest⟩ := List.forall_mem_cons.mp h
    have hne : ¬e.1.isSameKey key = true := by rw [hfirst]; exact Bool.false_ne_true
    obtain ⟨k', w'⟩ := e
    rw [putPair, if_neg hne, ih hrest, List.cons_append]

theorem putPair_of_mem {pre post : List (Value × Value)} {key w w' : Value}
    (hpre : ∀ e ∈ pre, e.1.isSameKey key = false) (hkey : key.isSameKey key = true) :
    putPair (pre ++ (key, w') :: post) key w = pre ++ (key, w) :: post := by
  induction pre with
  | nil => exact if_pos hkey
  | cons e pre ih =>
    obtain ⟨hfirst, hrest⟩ := List.forall_mem_cons.mp hpre
    have hne : ¬e.1.isSameKey key = true := by rw [hfirst]; exact Bool.false_ne_true
    obtain ⟨k', w''⟩ := e
    rw [List.cons_append, putPair, if_neg hne, ih hrest, List.cons_append]

/-! ### Putting a row of entries -/

/-- Whether entries are under the same key as entries of a row only if that key is a text. -/
def MeetInTexts (cur new : List (Value × Value)) : Prop :=
  ∀ e ∈ cur, ∀ e' ∈ new, e.1.isSameKey e'.1 = true → ∃ k, e.1 = .text k

/-- Whether an entry is hidden by none of a row. -/
def Shows (new : List (Value × Value)) (e : Value × Value) : Prop :=
  ∀ e' ∈ new, e.1.isSameKey e'.1 = false

theorem distinct_congr {es es' : List (Value × Value)} (h : es.map Prod.fst = es'.map Prod.fst)
    (hes : Distinct es) : Distinct es' := by
  have hkeys : (es.map Prod.fst).Pairwise fun a b => a.isSameKey b = false := List.pairwise_map.mpr hes
  rw [h] at hkeys
  exact List.pairwise_map.mp hkeys

theorem distinct_append_singleton (hcur : Distinct cur) {e : Value × Value}
    (he : ∀ e' ∈ cur, e'.1.isSameKey e.1 = false) : Distinct (cur ++ [e]) := by
  refine List.pairwise_append.mpr ⟨hcur, List.pairwise_singleton _ _, ?_⟩
  intro e' he' e'' he''
  obtain rfl := List.mem_singleton.mp he''
  exact he e' he'

/-- Putting one entry: under a new key at the end, and else in place of the one entry under the same text. -/
theorem putPair_cases (hcur : Distinct cur) {e : Value × Value}
    (hmeet : ∀ e' ∈ cur, e'.1.isSameKey e.1 = true → ∃ k, e'.1 = .text k) :
    Distinct (putPair cur e.1 e.2) ∧
      ∀ e', e' ∈ putPair cur e.1 e.2 ↔ e' = e ∨ e' ∈ cur ∧ e'.1.isSameKey e.1 = false := by
  obtain ⟨key, w⟩ := e
  cases hfind : cur.find? fun e' => e'.1.isSameKey key with
  | none =>
    have hnew : ∀ e' ∈ cur, e'.1.isSameKey key = false := fun e' he' => by
      simpa using List.find?_eq_none.mp hfind e' he'
    rw [putPair_of_new hnew]
    refine ⟨distinct_append_singleton hcur hnew, fun e' => ?_⟩
    rw [List.mem_append, List.mem_singleton, or_comm]
    exact or_congr_right ⟨fun h => ⟨h, hnew e' h⟩, And.left⟩
  | some found =>
    obtain ⟨hsame, pre, post, rfl, hpre⟩ := List.find?_eq_some_iff_append.mp hfind
    obtain ⟨k, hk⟩ := hmeet found (by simp) hsame
    obtain ⟨key', w'⟩ := found
    obtain rfl : key' = .text k := hk
    obtain rfl : key = .text k := isSameKey_text_left.mp hsame
    have hbefore : ∀ e' ∈ pre, e'.1.isSameKey (.text k) = false := fun e' he' => by
      simpa using hpre e' he'
    have hafter : ∀ e' ∈ post, e'.1.isSameKey (.text k) = false := by
      intro e' he'
      have hne := (List.pairwise_cons.mp (List.pairwise_append.mp hcur).2.1).1 e' he'
      rw [← Bool.not_eq_true, isSameKey_text_left] at hne
      rwa [← Bool.not_eq_true, isSameKey_text_right]
    rw [putPair_of_mem hbefore (isSameKey_text_left.mpr rfl)]
    refine ⟨distinct_congr (by simp) hcur, fun e' => ?_⟩
    simp only [List.mem_append, List.mem_cons]
    constructor
    · rintro (he' | rfl | he')
      · exact .inr ⟨.inl he', hbefore e' he'⟩
      · exact .inl rfl
      · exact .inr ⟨.inr (.inr he'), hafter e' he'⟩
    · rintro (rfl | ⟨he' | rfl | he', hne⟩)
      · exact .inr (.inl rfl)
      · exact .inl he'
      · exact absurd hsame (by rw [hne]; exact Bool.false_ne_true)
      · exact .inr (.inr he')

/-- **A row of entries put over others.**  It shows all of its own entries, and of the others those that it
does not hide. -/
theorem putPairs_cases (hcur : Distinct cur) (hnew : Distinct new) (hmeet : MeetInTexts cur new) :
    Distinct (putPairs cur new) ∧
      ∀ e, e ∈ putPairs cur new ↔ e ∈ new ∨ e ∈ cur ∧ Shows new e := by
  induction new generalizing cur with
  | nil => exact ⟨hcur, fun e => by simp [putPairs, Shows]⟩
  | cons first new ih =>
    obtain ⟨hfirst, hrest⟩ := List.pairwise_cons.mp hnew
    obtain ⟨hdistinct, hmem⟩ := putPair_cases hcur (e := first)
      fun e he => hmeet e he first List.mem_cons_self
    have hmeet' : MeetInTexts (putPair cur first.1 first.2) new := by
      intro e he e' he' hsame
      obtain rfl | ⟨he, -⟩ := (hmem e).mp he
      · exact absurd hsame (by rw [hfirst e' he']; exact Bool.false_ne_true)
      · exact hmeet e he e' (List.mem_cons_of_mem _ he') hsame
    obtain ⟨hall, hmemAll⟩ := ih hdistinct hrest hmeet'
    refine ⟨hall, fun e => ?_⟩
    show e ∈ putPairs (putPair cur first.1 first.2) new ↔ _
    have hshows : Shows (first :: new) e ↔ e.1.isSameKey first.1 = false ∧ Shows new e :=
      List.forall_mem_cons
    rw [hmemAll, hmem, hshows, List.mem_cons]
    constructor
    · rintro (he | ⟨rfl | ⟨he, hne⟩, hshows⟩)
      · exact .inl (.inr he)
      · exact .inl (.inl rfl)
      · exact .inr ⟨he, hne, hshows⟩
    · rintro ((rfl | he) | ⟨he, hne, hshows⟩)
      · exact .inr ⟨.inl rfl, hfirst⟩
      · exact .inl he
      · exact .inr ⟨.inr ⟨he, hne⟩, hshows⟩

/-- Entries under distinct keys that are written from the start stay as they are. -/
theorem putPairs_nil_of_distinct {es : List (Value × Value)} (h : Distinct es) : putPairs [] es = es := by
  have happend : ∀ cur, Distinct (cur ++ es) → putPairs cur es = cur ++ es := by
    induction es with
    | nil => exact fun cur _ => (List.append_nil cur).symm
    | cons e es ih =>
      intro cur hcur
      have hnew : ∀ e' ∈ cur, e'.1.isSameKey e.1 = false := fun e' he' =>
        (List.pairwise_append.mp hcur).2.2 e' he' e List.mem_cons_self
      have hsplit : cur ++ e :: es = (cur ++ [e]) ++ es := List.append_cons cur e es
      show putPairs (putPair cur e.1 e.2) es = cur ++ e :: es
      rw [putPair_of_new hnew, hsplit]
      exact ih (List.pairwise_cons.mp h).2 _ (hsplit ▸ hcur)
  exact happend [] h

/-! ### Proper values -/

theorem pairs?_ofPairs_of_mapM {es : List (Value × Value)} (h : Distinct es)
    (hkeys : ∀ t, es.mapM textEntry? = some t → es = textPairs t) : (ofPairs es).pairs? = some es := by
  simp only [ofPairs, putPairs_nil_of_distinct h]
  cases ht : es.mapM textEntry? with
  | none => rfl
  | some t => rw [hkeys t ht]; rfl

/-- If all keys of a proper value are texts, be they broken, none of them is broken. -/
theorem IsProper.eq_textPairs (hv : v.IsProper) (hpairs : v.pairs? = some new) {t : Table Value}
    (ht : new.mapM textEntry? = some t) : new = textPairs t := by
  obtain ⟨hdistinct, hof⟩ := hv new hpairs
  simp only [ofPairs, putPairs_nil_of_distinct hdistinct, ht] at hof
  rw [← hof, pairs?_table] at hpairs
  exact (Option.some.inj hpairs).symm

theorem mapM_textEntry?_eq_none {es : List (Value × Value)} :
    es.mapM textEntry? = none ↔ ∃ e ∈ es, textEntry? e = none := by
  induction es with
  | nil => simp
  | cons e es ih =>
    rw [List.mapM_cons, List.exists_mem_cons_iff, ← ih]
    cases textEntry? e <;> cases es.mapM textEntry? <;> simp

theorem distinct_textPairs (h : (Table.keys old).Nodup) : Distinct (textPairs old) := by
  have hkeys : old.Pairwise fun a b => a.1 ≠ b.1 := List.pairwise_map.mp h
  refine List.pairwise_map.mpr (hkeys.imp fun hne => ?_)
  rw [← Bool.not_eq_true, isSameKey_text_left, text.injEq]
  exact Ne.symm hne

theorem mem_textPairs {e : Value × Value} : e ∈ textPairs old ↔ ∃ k w, (k, w) ∈ old ∧ e = (.text k, w) := by
  simp [textPairs, eq_comm]

theorem text_mem_textPairs {w : Value} : (.text k, w) ∈ textPairs old ↔ (k, w) ∈ old := by
  simp [textPairs]

theorem meetInTexts_textPairs (old : Table Value) (new : List (Value × Value)) :
    MeetInTexts (textPairs old) new := by
  intro e he _ _ _
  obtain ⟨k, w, -, rfl⟩ := mem_textPairs.mp he
  exact ⟨k, rfl⟩

theorem hasKey_iff (hpairs : v.pairs? = some new) : v.HasKey k ↔ ∃ w, (.text k, w) ∈ new := by
  simp [HasKey, hpairs]

theorem shows_text_iff (hpairs : v.pairs? = some new) (w : Value) :
    Shows new (.text k, w) ↔ ¬v.HasKey k := by
  rw [hasKey_iff hpairs]
  constructor
  · rintro hshows ⟨w', hmem⟩
    have hne : ¬isSameKey (.text k) (.text k) = true := by
      rw [hshows _ hmem]
      exact Bool.false_ne_true
    exact hne (isSameKey_text_left.mpr rfl)
  · intro hnone e he
    rw [← Bool.not_eq_true, isSameKey_text_left]
    obtain ⟨key, w'⟩ := e
    rintro rfl
    exact hnone ⟨w', he⟩

section Put

variable (hv : v.IsProper) (hpairs : v.pairs? = some new) (hold : (Table.keys old).Nodup)

include hv hpairs hold

/-- A proper value put over a table has all of its own entries, and of the table those under other keys. -/
theorem IsProper.distinct_putPairs : Distinct (putPairs (textPairs old) new) ∧
    ∀ e, e ∈ putPairs (textPairs old) new ↔ e ∈ new ∨ e ∈ textPairs old ∧ Shows new e :=
  putPairs_cases (distinct_textPairs hold) (hv new hpairs).1 (meetInTexts_textPairs old new)

theorem IsProper.pairs?_ofPairs_putPairs :
    (ofPairs (putPairs (textPairs old) new)).pairs? = some (putPairs (textPairs old) new) := by
  obtain ⟨hdistinct, hmem⟩ := hv.distinct_putPairs hpairs hold
  refine pairs?_ofPairs_of_mapM hdistinct fun t ht => ?_
  cases hnew : new.mapM textEntry? with
  | none =>
    obtain ⟨e, he, hbroken⟩ := mapM_textEntry?_eq_none.mp hnew
    have hnone := mapM_textEntry?_eq_none.mpr ⟨e, (hmem e).mpr (.inl he), hbroken⟩
    cases hnone.symm.trans ht
  | some u =>
    obtain rfl := hv.eq_textPairs hpairs hnew
    rw [putPairs_textPairs, mapM_textEntry?_textPairs] at ht
    rw [putPairs_textPairs, Option.some.inj ht]

theorem IsProper.ofPairs_putPairs : (ofPairs (putPairs (textPairs old) new)).IsProper := by
  intro es hes
  obtain rfl := Option.some.inj ((hv.pairs?_ofPairs_putPairs hpairs hold).symm.trans hes)
  exact ⟨(hv.distinct_putPairs hpairs hold).1, rfl⟩

theorem IsProper.hasKey_ofPairs_putPairs :
    (ofPairs (putPairs (textPairs old) new)).HasKey k ↔ v.HasKey k ∨ k ∈ Table.keys old := by
  obtain ⟨-, hmem⟩ := hv.distinct_putPairs hpairs hold
  rw [hasKey_iff (hv.pairs?_ofPairs_putPairs hpairs hold)]
  by_cases hkey : v.HasKey k
  · obtain ⟨w, hw⟩ := (hasKey_iff hpairs).mp hkey
    exact iff_of_true ⟨w, (hmem _).mpr (.inl hw)⟩ (.inl hkey)
  · rw [or_iff_right hkey, Table.mem_keys_iff]
    refine exists_congr fun w => ?_
    have hnew : (.text k, w) ∉ new := fun hw => hkey ((hasKey_iff hpairs).mpr ⟨w, hw⟩)
    rw [hmem, or_iff_right hnew, shows_text_iff hpairs, and_iff_left hkey, text_mem_textPairs]

end Put

end Value

end Daihon

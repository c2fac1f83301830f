import Daihon.Value.Key
import Mathlib.Data.List.Nodup

/-!
# Entries of tables

What writing entries into a table does to its keys and entries: `keys_put` says where a key goes, and
from it follows that a table written from the start has every key once (`nodup_keys_ofEntries`).  Of two
tables put together the lower one gives the order of the keys (`keys_putAll`) and the upper one the values
(`get?_putAll`), and by both a table is known (`eq_of_keys_eq`).

A row of entries whose keys are texts is written like a table (`putPairs_textPairs`), so that two tables
put together are a table again (`ofPairs_putPairs_textPairs`).  Whatever other keys the upper one has, the
two put together start with the keys of the lower one (`StartsWith.ofPairs_putPairs`).
-/

namespace Daihon

namespace Table

variable {α : Type}

/-! ### Keys -/

@[simp] theorem keys_nil : keys ([] : Table α) = [] := rfl

@[simp] theorem keys_cons (e : String × α) (t : Table α) : keys (e :: t) = e.1 :: keys t := rfl

theorem keys_append (t u : Table α) : keys (t ++ u) = keys t ++ keys u :=
  List.map_append

/-- A key that is there keeps its place, and a new one comes last. -/
theorem keys_put (t : Table α) (key : String) (a : α) :
    keys (t.put key a) = if key ∈ keys t then keys t else keys t ++ [key] := by
  induction t with
  | nil => rfl
  | cons e t ih =>
    obtain ⟨k, b⟩ := e
    by_cases hk : k = key
    · simp [put, hk]
    · rw [put, if_neg (by simpa using hk), keys_cons, ih]
      by_cases hmem : key ∈ keys t
      · simp [hmem]
      · simp [hmem, Ne.symm hk]

theorem mem_keys_put {t : Table α} {key k : String} {a : α} :
    k ∈ keys (t.put key a) ↔ k ∈ keys t ∨ k = key := by
  rw [keys_put]
  split
  · next hkey => exact ⟨.inl, fun h => h.elim id fun h => h ▸ hkey⟩
  · simp

theorem nodup_keys_put {t : Table α} (h : (keys t).Nodup) (key : String) (a : α) :
    (keys (t.put key a)).Nodup := by
  rw [keys_put]
  split
  · exact h
  · next hkey => exact List.nodup_append_comm.mp (List.nodup_cons.mpr ⟨hkey, h⟩)

theorem putAll_cons (t : Table α) (e : String × α) (new : Table α) :
    putAll t (e :: new) = putAll (t.put e.1 e.2) new := rfl

theorem mem_keys_putAll {t new : Table α} {k : String} :
    k ∈ keys (putAll t new) ↔ k ∈ keys t ∨ k ∈ keys new := by
  induction new generalizing t with
  | nil => simp [putAll]
  | cons e new ih =>
    rw [putAll_cons, ih, mem_keys_put]
    simp [or_assoc]

theorem nodup_keys_putAll {t : Table α} (h : (keys t).Nodup) (new : Table α) :
    (keys (putAll t new)).Nodup := by
  induction new generalizing t with
  | nil => exact h
  | cons e new ih => exact ih (nodup_keys_put h e.1 e.2)

theorem nodup_keys_ofEntries (entries : Table α) : (keys (ofEntries entries)).Nodup :=
  nodup_keys_putAll (t := []) List.nodup_nil entries

/-! ### Entries -/

theorem get?_cons (key k : String) (a : α) (t : Table α) :
    get? ((k, a) :: t) key = if k = key then some a else get? t key := by
  by_cases h : k = key <;> simp [get?, h]

theorem exists_get?_of_mem_keys {t : Table α} {k : String} (h : k ∈ keys t) : ∃ a, get? t k = some a := by
  obtain ⟨e, he, hk⟩ := List.mem_map.mp h
  have hfind : (t.find? fun entry => entry.1 == k).isSome := by
    rw [List.find?_isSome]
    exact ⟨e, he, by simpa using hk⟩
  obtain ⟨e', he'⟩ := Option.isSome_iff_exists.mp hfind
  exact ⟨e'.2, by rw [get?, he']; rfl⟩

theorem get?_eq_none_of_notMem {t : Table α} {k : String} (h : k ∉ keys t) : get? t k = none := by
  rw [get?, Option.map_eq_none_iff, List.find?_eq_none]
  intro e he hk
  exact h (List.mem_map.mpr ⟨e, he, by simpa using hk⟩)

/-- The value under a key of one of two tables put together is that of the upper one, if it has the key. -/
theorem get?_putAll {t new : Table α} (h : (keys new).Nodup) (k : String) :
    get? (putAll t new) k = (get? new k).or (get? t k) := by
  induction new generalizing t with
  | nil => rfl
  | cons e new ih =>
    obtain ⟨key, a⟩ := e
    obtain ⟨hkey, hnew⟩ := List.nodup_cons.mp h
    rw [putAll_cons, ih hnew, get?_cons]
    by_cases hk : key = k
    · subst hk
      rw [if_pos rfl, get?_eq_none_of_notMem hkey, get?_put_self]
      rfl
    · rw [if_neg hk, get?_put_of_ne t a (Ne.symm hk)]

theorem eq_of_keys_eq {t u : Table α} (h : (keys t).Nodup) (hkeys : keys t = keys u)
    (hvalues : ∀ k ∈ keys t, get? t k = get? u k) : t = u := by
  induction t generalizing u with
  | nil =>
    cases u with
    | nil => rfl
    | cons e u => cases hkeys
  | cons e t ih =>
    cases u with
    | nil => cases hkeys
    | cons e' u =>
      obtain ⟨k, a⟩ := e
      obtain ⟨k', b⟩ := e'
      obtain ⟨hk, ht⟩ := List.nodup_cons.mp h
      obtain ⟨rfl, hrest⟩ : k = k' ∧ keys t = keys u := List.cons.inj hkeys
      have hfirst : a = b := by
        have hvalue := hvalues k List.mem_cons_self
        rw [get?_cons, get?_cons, if_pos rfl, if_pos rfl] at hvalue
        exact Option.some.inj hvalue
      have hothers : t = u := by
        refine ih ht hrest fun key hkey => ?_
        have hne : k ≠ key := fun hne => hk (hne ▸ hkey)
        have hvalue := hvalues key (List.mem_cons_of_mem _ hkey)
        rwa [get?_cons, get?_cons, if_neg hne, if_neg hne] at hvalue
      rw [hfirst, hothers]

theorem put_of_notMem {t : Table α} {key : String} (h : key ∉ keys t) (a : α) :
    t.put key a = t ++ [(key, a)] := by
  induction t with
  | nil => rfl
  | cons e t ih =>
    obtain ⟨k, b⟩ := e
    obtain ⟨hk, ht⟩ := not_or.mp (List.mem_cons.not.mp h)
    rw [put, if_neg (by simpa using Ne.symm hk), ih ht, List.cons_append]

/-- Entries under new keys, each written once, are put at the end as they stand. -/
theorem putAll_of_nodup {t new : Table α} (h : (keys (t ++ new)).Nodup) : t.putAll new = t ++ new := by
  induction new generalizing t with
  | nil => exact (List.append_nil t).symm
  | cons e new ih =>
    have hsplit : t ++ e :: new = t ++ [e] ++ new := List.append_cons t e new
    have hkey : e.1 ∉ keys t := by
      rw [keys_append] at h
      exact fun hmem => (List.disjoint_of_nodup_append h) hmem List.mem_cons_self
    rw [putAll_cons, put_of_notMem hkey, ih (hsplit ▸ h), hsplit]

theorem ofEntries_of_nodup {entries : Table α} (h : (keys entries).Nodup) : ofEntries entries = entries :=
  putAll_of_nodup (t := []) h

/-! ### Keys of tables put together -/

/-- The keys of two tables put together: those of the lower one, and then those that the upper one adds. -/
def keysOver (lower upper : List String) : List String :=
  lower ++ upper.filter fun k => k ∉ lower

theorem keysOver_nil_left (upper : List String) : keysOver [] upper = upper := by
  simp [keysOver]

theorem keysOver_nil_right (lower : List String) : keysOver lower [] = lower :=
  List.append_nil lower

theorem keysOver_assoc (a b c : List String) :
    keysOver a (keysOver b c) = keysOver (keysOver a b) c := by
  have hnew : (c.filter fun k => k ∉ b).filter (fun k => k ∉ a) =
      c.filter fun k => k ∉ a ++ b.filter fun k => k ∉ a := by
    rw [List.filter_filter]
    refine List.filter_congr fun k _ => ?_
    by_cases ha : k ∈ a <;> simp [ha]
  rw [keysOver, keysOver, keysOver, keysOver, List.filter_append, hnew, List.append_assoc]

theorem keysOver_of_isPrefix {lower upper : List String} (h : lower <+: upper) (hupper : upper.Nodup) :
    keysOver lower upper = upper := by
  obtain ⟨rest, rfl⟩ := h
  have hdisjoint := List.disjoint_of_nodup_append hupper
  have hlower : lower.filter (fun k => k ∉ lower) = [] :=
    List.filter_eq_nil_iff.mpr fun k hk => by simpa using hk
  have hrest : rest.filter (fun k => k ∉ lower) = rest :=
    List.filter_eq_self.mpr fun k hk => by simpa using fun hlow => hdisjoint hlow hk
  rw [keysOver, List.filter_append, hlower, hrest, List.nil_append]

theorem keys_putAll {t new : Table α} (h : (keys new).Nodup) :
    keys (putAll t new) = keysOver (keys t) (keys new) := by
  induction new generalizing t with
  | nil => exact (keysOver_nil_right _).symm
  | cons e new ih =>
    obtain ⟨hkey, hnew⟩ := List.nodup_cons.mp h
    rw [putAll_cons, ih hnew, keys_put, keys_cons]
    split
    · next hmem => simp [keysOver, hmem]
    · next hmem =>
      have hsame : (keys new).filter (fun k => k ∉ keys t ++ [e.1]) =
          (keys new).filter fun k => k ∉ keys t := by
        refine List.filter_congr fun k hk => ?_
        have hne : k ≠ e.1 := fun hne => hkey (hne ▸ hk)
        simp [hne]
      rw [keysOver, keysOver, hsame, List.filter_cons_of_pos (by simpa using hmem), List.append_assoc]
      rfl

theorem keys_isPrefix_putAll (t new : Table α) : keys t <+: keys (putAll t new) := by
  induction new generalizing t with
  | nil => exact List.prefix_rfl
  | cons e new ih =>
    have hput : keys t <+: keys (t.put e.1 e.2) := by
      rw [keys_put]
      split
      · exact List.prefix_rfl
      · exact List.prefix_append _ _
    exact hput.trans (ih (t.put e.1 e.2))

end Table

namespace Value

/-! ### Entries under texts -/

/-- The entries of a table, with their keys as values. -/
def textPairs (t : Table Value) : List (Value × Value) :=
  t.map fun (k, v) => (.text k, v)

theorem pairs?_table (t : Table Value) : (table t).pairs? = some (textPairs t) := rfl

theorem putPair_textPairs (t : Table Value) (k : String) (v : Value) :
    putPair (textPairs t) (.text k) v = textPairs (t.put k v) := by
  induction t with
  | nil => rfl
  | cons e t ih =>
    obtain ⟨k', w⟩ := e
    by_cases hk : k' = k
    · simp [textPairs, putPair, Table.put, isSameKey, hk]
    · simp only [textPairs, List.map_cons, putPair, Table.put, isSameKey, beq_iff_eq, hk, if_false] at ih ⊢
      rw [ih]

/-- Entries under texts are put together like those of tables. -/
theorem putPairs_textPairs (old new : Table Value) :
    putPairs (textPairs old) (textPairs new) = textPairs (old.putAll new) := by
  induction new generalizing old with
  | nil => rfl
  | cons e new ih =>
    rw [Table.putAll_cons, ← ih, ← putPair_textPairs]
    rfl

theorem mapM_textEntry?_textPairs (t : Table Value) : (textPairs t).mapM textEntry? = some t := by
  induction t with
  | nil => rfl
  | cons e t ih =>
    rw [textPairs, List.map_cons, List.mapM_cons]
    rw [textPairs] at ih
    rw [ih]
    rfl

theorem ofPairs_textPairs (t : Table Value) : ofPairs (textPairs t) = table (Table.ofEntries t) := by
  have hput : putPairs [] (textPairs t) = textPairs (Table.ofEntries t) := putPairs_textPairs [] t
  simp only [ofPairs, hput, mapM_textEntry?_textPairs]

/-- Two tables put together are a table. -/
theorem ofPairs_putPairs_textPairs (old new : Table Value) :
    ofPairs (putPairs (textPairs old) (textPairs new)) = table (Table.ofEntries (old.putAll new)) := by
  rw [putPairs_textPairs, ofPairs_textPairs]

theorem pairs?_ofPairs_ne_none (es : List (Value × Value)) : (ofPairs es).pairs? ≠ none := by
  simp only [ofPairs]
  split
  · exact Option.some_ne_none _
  · exact Option.some_ne_none _

/-! ### Keys in front -/

theorem exists_putPair_append (t : Table Value) (rest : List (Value × Value)) (key v : Value) :
    ∃ t' rest', putPair (textPairs t ++ rest) key v = textPairs t' ++ rest' ∧
      Table.keys t' = Table.keys t := by
  induction t with
  | nil => exact ⟨[], _, rfl, rfl⟩
  | cons e t ih =>
    obtain ⟨k, w⟩ := e
    by_cases hsame : (text k).isSameKey key = true
    · exact ⟨(k, v) :: t, rest, by simp [textPairs, putPair, hsame], rfl⟩
    · obtain ⟨t', rest', hput, hkeys⟩ := ih
      refine ⟨(k, w) :: t', rest', ?_, by simp [hkeys]⟩
      simp only [textPairs, List.map_cons, List.cons_append] at hput ⊢
      rw [putPair, if_neg hsame, hput]

/-- Entries under texts stay in front, whatever is put to them. -/
theorem exists_putPairs_append (t : Table Value) (rest new : List (Value × Value)) :
    ∃ t' rest', putPairs (textPairs t ++ rest) new = textPairs t' ++ rest' ∧
      Table.keys t' = Table.keys t := by
  induction new generalizing t rest with
  | nil => exact ⟨t, rest, rfl, rfl⟩
  | cons e new ih =>
    obtain ⟨t', rest', hput, hkeys⟩ := exists_putPair_append t rest e.1 e.2
    obtain ⟨t'', rest'', hputs, hkeys'⟩ := ih t' rest'
    refine ⟨t'', rest'', ?_, hkeys'.trans hkeys⟩
    rw [← hputs, ← hput]
    rfl

theorem putPairs_append (old new new' : List (Value × Value)) :
    putPairs old (new ++ new') = putPairs (putPairs old new) new' :=
  List.foldl_append

/-- Whether the entries of a value start with entries under the given texts. -/
def StartsWith (v : Value) (ks : List String) : Prop :=
  ∃ t rest, v.pairs? = some (textPairs t ++ rest) ∧ Table.keys t = ks

theorem startsWith_nil {v : Value} (h : v.pairs? ≠ none) : v.StartsWith [] := by
  obtain ⟨es, hes⟩ := Option.ne_none_iff_exists'.mp h
  exact ⟨[], es, hes, rfl⟩

/-- What a row of entries makes starts with the texts that the row starts with. -/
theorem startsWith_ofPairs {t : Table Value} (ht : (Table.keys t).Nodup) (rest : List (Value × Value)) :
    (ofPairs (textPairs t ++ rest)).StartsWith (Table.keys t) := by
  have hput : putPairs [] (textPairs t ++ rest) = putPairs (textPairs t) rest := by
    have hfirst : putPairs [] (textPairs t) = textPairs (Table.ofEntries t) := putPairs_textPairs [] t
    rw [putPairs_append, hfirst, Table.ofEntries_of_nodup ht]
  obtain ⟨t', rest', hputs, hkeys⟩ := exists_putPairs_append t [] rest
  rw [List.append_nil] at hputs
  simp only [ofPairs, hput, hputs]
  split
  · next u hu =>
    rw [List.mapM_append, mapM_textEntry?_textPairs] at hu
    obtain ⟨first, hfirst, hu⟩ := Option.bind_eq_some_iff.mp hu
    obtain rfl := Option.some.inj hfirst
    obtain ⟨u', -, hu⟩ := Option.bind_eq_some_iff.mp hu
    obtain rfl := Option.some.inj hu
    refine ⟨t', textPairs u', ?_, hkeys⟩
    rw [pairs?_table, textPairs, List.map_append]
    rfl
  · exact ⟨t', rest', rfl, hkeys⟩

/-- Entries put over a table start with the keys of the table, and then with those in front of theirs. -/
theorem StartsWith.ofPairs_putPairs {v : Value} {ks : List String} (h : v.StartsWith ks) (hks : ks.Nodup)
    {old : Table Value} (hold : (Table.keys old).Nodup) {new : List (Value × Value)}
    (hnew : v.pairs? = some new) :
    (ofPairs (putPairs (textPairs old) new)).StartsWith (Table.keysOver (Table.keys old) ks) := by
  obtain ⟨t, rest, hpairs, rfl⟩ := h
  obtain rfl := Option.some.inj (hnew.symm.trans hpairs)
  have hall := Table.nodup_keys_putAll hold t
  obtain ⟨t', rest', hputs, hkeys⟩ := exists_putPairs_append (old.putAll t) [] rest
  rw [List.append_nil] at hputs
  rw [putPairs_append, putPairs_textPairs, hputs, ← Table.keys_putAll hks, ← hkeys]
  exact startsWith_ofPairs (hkeys ▸ hall) rest'

end Value

end Daihon

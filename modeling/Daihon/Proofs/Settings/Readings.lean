import Daihon.Proofs.Json.Tables
import Daihon.Settings.Sources

/-!
# What is read again

No value is refused without a reason (`Coercion.read_hasReason`), and a reading fails as a whole for one
cause only (`Coercion.eq_noHome_of_read`).

A value of a field that is given again is read as itself (`Coercion.read_give`), and what is given for a field
that is no table hides what is given below it (`Coercion.read_mergeAll_eq_ok_iff`).  A table of texts that was
read over weaker ones starts with the keys of these (`Coercion.keysBelow_isPrefix_of_names`), so it is read
over them as itself again (`Coercion.read_mergeAll_give`).
-/

namespace Daihon

/-- Whether a reading, if it is refused, is refused with a reason. -/
def Reading.HasReason {α : Type} (r : Reading α) : Prop := r ≠ .error (.refused [])

/-- Whether a reading, if it does not come about, is refused for the value itself. -/
def Reading.IsDirect {α : Type} (r : Reading α) : Prop :=
  ∀ e, r = .error e → ∃ why, e = .ofRefusal why

theorem Reading.IsDirect.hasReason {α : Type} {r : Reading α} (h : r.IsDirect) : r.HasReason := by
  intro hr
  obtain ⟨why, hwhy⟩ := h _ hr
  cases hwhy

/-! ### Values below others -/

/-- The keys of a value, if it is a table. -/
def Given.tableKeys : Given → List String
  | .data (.table t) => Table.keys t
  | _ => []

/-- The value under a key of a value, if it is a table. -/
def Given.tableValue? (key : String) : Given → Option Value
  | .data (.table t) => Table.get? t key
  | _ => none

theorem Given.tableKeys_of_pairs?_eq_none {g : Given} (h : g.value.pairs? = none) : g.tableKeys = [] := by
  unfold tableKeys
  split
  · cases h
  · rfl

theorem Given.tableValue?_of_pairs?_eq_none {g : Given} {key : String} (h : g.value.pairs? = none) :
    g.tableValue? key = none := by
  unfold tableValue?
  split
  · cases h
  · rfl

namespace Layer

/-- A value put over weaker ones, of which the strongest come first. -/
def mergeAll (strong : Given) (weak : List Given) : Given :=
  weak.foldl merge strong

theorem mergeAll_cons (strong w : Given) (weak : List Given) :
    mergeAll strong (w :: weak) = mergeAll (merge strong w) weak := rfl

/-- The keys of the tables among weaker values, in the order in which they end up below a table. -/
def keysBelow : List Given → List String
  | [] => []
  | w :: weak => Table.keysOver (keysBelow weak) w.tableKeys

end Layer

namespace Coercion

open Reading (HasReason IsDirect)

variable {α β : Type} {s : Surroundings} {v : Value}

/-! ### Reasons -/

@[simp] theorem isDirect_ok (a : α) : IsDirect (.ok a : Reading α) := nofun

@[simp] theorem isDirect_refuse (why : Refusal) : IsDirect (refuse why : Reading α) :=
  fun _ he => ⟨why, (Except.error.inj he).symm⟩

@[simp] theorem isDirect_orRefuse (why : Refusal) (a : Option α) : IsDirect (orRefuse why a) := by
  cases a with
  | none => exact isDirect_refuse why
  | some a => exact isDirect_ok a

theorem isDirect_bind {r : Reading α} (hr : IsDirect r) {f : α → Reading β}
    (hf : ∀ a, IsDirect (f a)) : IsDirect (r.bind f) := by
  cases r with
  | error e => exact fun e' he' => hr e' (congrArg Except.error (Except.error.inj he'))
  | ok a => exact hf a

theorem isDirect_of_error {r : Reading α} {e : Rejection} (hr : IsDirect r) (h : r = .error e) :
    IsDirect (.error e : Reading β) := by
  rintro _ ⟨⟩
  exact hr e h

theorem isDirect_of_asText? {bad : Refusal} {r : Reading String} (h : asText? bad v = some r) :
    IsDirect r := by
  cases v with
  | text s =>
    obtain rfl := Option.some.inj h
    exact isDirect_ok s
  | brokenText s =>
    obtain rfl := Option.some.inj h
    exact isDirect_refuse _
  | bytes bs =>
    obtain rfl := Option.some.inj h
    exact isDirect_orRefuse _ _
  | _ => cases h

theorem text_isDirect (v : Value) : IsDirect (text v) := by
  unfold text
  cases h : asText? .textBytes v with
  | none => exact isDirect_refuse _
  | some r => exact isDirect_of_asText? h

theorem flag_isDirect (v : Value) : IsDirect (flag v) := by
  unfold flag
  split
  · next h => exact isDirect_bind (isDirect_of_asText? h) fun s => isDirect_orRefuse _ _
  all_goals repeat' split
  all_goals simp

theorem int_isDirect (v : Value) : IsDirect (int v) := by
  unfold int
  split
  · next h =>
    refine isDirect_bind (isDirect_of_asText? h) fun s => ?_
    cases intText s.toList with
    | error e => exact isDirect_refuse e
    | ok n => exact isDirect_ok n
  all_goals repeat' split
  all_goals simp

theorem float_isDirect (v : Value) : IsDirect (float v) := by
  unfold float
  split
  · next h => exact isDirect_bind (isDirect_of_asText? h) fun s => isDirect_orRefuse _ _
  all_goals repeat' split
  all_goals simp

theorem size_isDirect (v : Value) : IsDirect (size v) := by
  unfold size
  split
  · next h => exact isDirect_of_error (int_isDirect v) h
  all_goals repeat' split
  all_goals simp

theorem offset_isDirect (v : Value) : IsDirect (offset v) := by
  unfold offset
  split
  · next h => exact isDirect_of_error (int_isDirect v) h
  all_goals repeat' split
  all_goals simp

theorem volume_isDirect (v : Value) : IsDirect (volume v) := by
  unfold volume
  split
  · next h => exact isDirect_of_error (float_isDirect v) h
  all_goals repeat' split
  all_goals simp

theorem level_isDirect (v : Value) : IsDirect (level v) := by
  unfold level
  repeat' split
  all_goals simp

theorem format_isDirect (v : Value) : IsDirect (format v) := by
  unfold format
  repeat' split
  all_goals simp

/-- A file is refused for the value itself, unless a home directory is not known. -/
theorem file_isDirect_or_noHome (s : Surroundings) (g : Given) :
    IsDirect (file s g) ∨ file s g = .error (.failed .noHome) := by
  unfold file
  repeat' split
  all_goals first | exact .inl (isDirect_ok _) | exact .inl (isDirect_refuse _) | exact .inr rfl

/-- What is given for a field that is no table is refused for the value itself, unless a home directory is
not known. -/
theorem isDirect_or_noHome (s : Surroundings) {t : FieldType} (ht : t ≠ .names) (g : Given) :
    IsDirect (read s t g) ∨ read s t g = .error (.failed .noHome) := by
  cases t with
  | flag => exact .inl (flag_isDirect _)
  | level => exact .inl (level_isDirect _)
  | format => exact .inl (format_isDirect _)
  | file => exact file_isDirect_or_noHome s g
  | text => exact .inl (text_isDirect _)
  | volume => exact .inl (volume_isDirect _)
  | size => exact .inl (size_isDirect _)
  | offset => exact .inl (offset_isDirect _)
  | names => exact absurd rfl ht

theorem names_hasReason (v : Value) : HasReason (names v) := by
  unfold names
  split
  · exact (isDirect_refuse _).hasReason
  · split
    · exact (isDirect_ok _).hasReason
    · next problems hproblems _ =>
      rintro ⟨⟩
      exact hproblems rfl

theorem read_hasReason (s : Surroundings) (t : FieldType) (g : Given) : HasReason (read s t g) := by
  by_cases ht : t = .names
  · subst ht
    exact names_hasReason _
  · obtain hdirect | hfailed := isDirect_or_noHome s ht g
    · exact hdirect.hasReason
    · rintro h
      cases hfailed.symm.trans h

theorem names_ne_failed (v : Value) (e : Failure) : names v ≠ .error (.failed e) := by
  unfold names
  split
  · nofun
  · split <;> nofun

theorem eq_noHome_of_read {t : FieldType} {g : Given} {e : Failure}
    (h : read s t g = .error (.failed e)) : e = .noHome := by
  by_cases ht : t = .names
  · subst ht
    exact absurd h (names_ne_failed _ e)
  · obtain hdirect | hfailed := isDirect_or_noHome s ht g
    · obtain ⟨why, hwhy⟩ := hdirect _ h
      cases hwhy
    · cases hfailed.symm.trans h
      rfl

/-! ### Tables of texts -/

theorem text_eq_ok_or_refuse (v : Value) : (∃ s, text v = .ok s) ∨ ∃ e, text v = refuse e := by
  unfold text
  cases v with
  | text s => exact .inl ⟨s, rfl⟩
  | bytes bs =>
    cases h : textOfBytes? bs with
    | none => exact .inr ⟨.textBytes, by simp [asText?, orRefuse, h]⟩
    | some s => exact .inl ⟨s, by simp [asText?, orRefuse, h]⟩
  | _ => exact .inr ⟨_, rfl⟩

theorem placedText_snd_eq_nil_iff {place : List String} :
    (placedText place v).2 = [] ↔ ∃ s, text v = .ok s := by
  obtain ⟨s, hs⟩ | ⟨e, he⟩ := text_eq_ok_or_refuse v
  · simp [placedText, hs]
  · simp [placedText, he, refuse, Rejection.ofRefusal]

theorem placedText_fst_of_ok {place : List String} {t : String} (h : text v = .ok t) :
    (placedText place v).1 = some t := by
  simp [placedText, h]

theorem textEntries_snd_eq_nil_iff {es : List (Value × Value)} :
    (textEntries es).2 = [] ↔ ∀ e ∈ es, (∃ k, text e.1 = .ok k) ∧ ∃ x, text e.2 = .ok x := by
  induction es with
  | nil => simp [textEntries]
  | cons e es ih =>
    simp only [textEntries, List.append_eq_nil_iff, placedText_snd_eq_nil_iff, ih,
      List.forall_mem_cons]

/-- Entries under texts that are without problems are texts under the same keys. -/
theorem exists_textEntries_append {t : Table Value} {es : List (Value × Value)}
    (h : (textEntries (Value.textPairs t ++ es)).2 = []) :
    ∃ u, (textEntries (Value.textPairs t ++ es)).1 = u ++ (textEntries es).1 ∧
      Table.keys u = Table.keys t := by
  induction t with
  | nil => exact ⟨[], rfl, rfl⟩
  | cons e t ih =>
    obtain ⟨k, v⟩ := e
    obtain ⟨hfirst, hrest⟩ := List.append_eq_nil_iff.mp h
    obtain ⟨u, hu, hkeys⟩ := ih hrest
    obtain ⟨x, hx⟩ := placedText_snd_eq_nil_iff.mp (List.append_eq_nil_iff.mp hfirst).2
    have hk : text (.text k) = .ok k := rfl
    refine ⟨(k, x) :: u, ?_, by simp [hkeys]⟩
    simp only [Value.textPairs] at hu
    simp [Value.textPairs, textEntries, placedText_fst_of_ok hk, placedText_fst_of_ok hx, hu]

theorem names_eq_ok_iff {t : Table String} :
    names v = .ok t ↔
      ∃ es, v.pairs? = some es ∧ (textEntries es).2 = [] ∧ t = Table.ofEntries (textEntries es).1 := by
  unfold names
  cases hv : v.pairs? with
  | none => simp [refuse]
  | some es =>
    cases hes : textEntries es with
    | mk texts problems =>
      cases problems with
      | nil => simp only [Option.some.injEq, exists_eq_left', hes, true_and, Except.ok.injEq, eq_comm]
      | cons p ps => simp [hes]

theorem nodup_keys_of_names {t : Table String} (h : names v = .ok t) : (Table.keys t).Nodup := by
  obtain ⟨es, -, -, rfl⟩ := names_eq_ok_iff.mp h
  exact Table.nodup_keys_ofEntries _

/-- A table of texts starts with the keys in front of what it is read from. -/
theorem isPrefix_keys_of_names {t : Table String} (h : names v = .ok t) {ks : List String}
    (hks : ks.Nodup) (hv : v.StartsWith ks) : ks <+: Table.keys t := by
  obtain ⟨es, hes, hproblems, rfl⟩ := names_eq_ok_iff.mp h
  obtain ⟨front, rest, hpairs, rfl⟩ := hv
  obtain rfl := Option.some.inj (hes.symm.trans hpairs)
  obtain ⟨u, hu, hkeys⟩ := exists_textEntries_append hproblems
  have hfirst : Table.ofEntries u = u := Table.ofEntries_of_nodup (hkeys ▸ hks)
  have hsplit : Table.ofEntries (u ++ (textEntries rest).1) = (Table.ofEntries u).putAll (textEntries rest).1 :=
    List.foldl_append
  rw [hu, hsplit, hfirst, ← hkeys]
  exact Table.keys_isPrefix_putAll _ _

/-! ### Values put over others -/

/-- A value keyed by texts is a table, or it has no entries. -/
theorem eq_table_or_pairs?_eq_none {g : Given} (h : g.value.IsKeyed) :
    (∃ t, g = .data (.table t)) ∨ g.value.pairs? = none := by
  cases g with
  | file p => exact .inr rfl
  | data v =>
    cases v with
    | table t => exact .inl ⟨t, rfl⟩
    | mapping es => exact h.elim
    | _ => exact .inr rfl

theorem merge_eq_of_weak {strong weak : Given} (h : weak.value.pairs? = none) :
    Layer.merge strong weak = strong := by
  unfold Layer.merge
  split
  · next w =>
    have hw : w.pairs? = none := h
    simp [hw]
  · rfl

theorem merge_eq_of_strong {strong weak : Given} (h : strong.value.pairs? = none) :
    Layer.merge strong weak = strong := by
  unfold Layer.merge
  split
  · next v w =>
    have hv : v.pairs? = none := h
    simp [hv]
  · rfl

theorem merge_table_table (new old : Table Value) :
    Layer.merge (.data (.table new)) (.data (.table old)) =
      .data (.table (Table.ofEntries (old.putAll new))) :=
  congrArg Given.data (Value.ofPairs_putPairs_textPairs old new)

theorem eq_names_of_read {t : FieldType} {a : t.Carrier} (hv : v.pairs? ≠ none)
    (h : read s t (.data v) = .ok a) : t = .names := by
  cases v with
  | table es => cases t <;> first | rfl | cases h
  | mapping es => cases t <;> first | rfl | cases h
  | _ => exact absurd rfl hv

/-- What is given for a field that is no table hides what is given below it. -/
theorem read_merge_eq_ok_iff {t : FieldType} (ht : t ≠ .names) {strong weak : Given} {a : t.Carrier} :
    read s t (Layer.merge strong weak) = .ok a ↔ read s t strong = .ok a := by
  unfold Layer.merge
  split
  · next v w =>
    split
    · next new old hnew _ =>
      -- Both are tables, and neither can be read.
      constructor
      · intro h
        exact absurd (eq_names_of_read (Value.pairs?_ofPairs_ne_none _) h) ht
      · intro h
        exact absurd (eq_names_of_read (by simp [hnew]) h) ht
    · rfl
  · rfl

/-- What is given for a field that is no table hides all that is given below it. -/
theorem read_mergeAll_eq_ok_iff {t : FieldType} (ht : t ≠ .names) {strong : Given} {weak : List Given}
    {a : t.Carrier} : read s t (Layer.mergeAll strong weak) = .ok a ↔ read s t strong = .ok a := by
  induction weak generalizing strong with
  | nil => rfl
  | cons w weak ih => exact ih.trans (read_merge_eq_ok_iff ht)

theorem mergeAll_eq_of_strong {strong : Given} (h : strong.value.pairs? = none) (weak : List Given) :
    Layer.mergeAll strong weak = strong := by
  induction weak with
  | nil => rfl
  | cons w weak ih => rw [Layer.mergeAll_cons, merge_eq_of_strong h, ih]

/-- What is put over keyed values starts with their keys, and then with those in front of it. -/
theorem startsWith_mergeAll {strong : Given} {weak : List Given} (hweak : ∀ w ∈ weak, w.value.IsKeyed)
    {ks : List String} (hks : ks.Nodup) (h : strong.value.StartsWith ks) :
    (Layer.mergeAll strong weak).value.StartsWith (Table.keysOver (Layer.keysBelow weak) ks) ∧
      (Table.keysOver (Layer.keysBelow weak) ks).Nodup := by
  induction weak generalizing strong ks with
  | nil =>
    rw [Layer.keysBelow, Table.keysOver_nil_left]
    exact ⟨h, hks⟩
  | cons w weak ih =>
    obtain ⟨hw, hrest⟩ := List.forall_mem_cons.mp hweak
    rw [Layer.mergeAll_cons, Layer.keysBelow, ← Table.keysOver_assoc]
    obtain ⟨old, rfl⟩ | hnone := eq_table_or_pairs?_eq_none hw
    · obtain ⟨t, rest, hpairs, hkeys⟩ := h
      have hnodup : (Table.keysOver (Table.keys old) ks).Nodup := by
        rw [← hkeys, ← Table.keys_putAll (hkeys ▸ hks)]
        exact Table.nodup_keys_putAll hw t
      refine ih hrest hnodup ?_
      cases strong with
      | file p => cases hpairs
      | data v =>
        have hstart : v.StartsWith ks := ⟨t, rest, hpairs, hkeys⟩
        have hmerge : Layer.merge (.data v) (.data (.table old)) =
            .data (.ofPairs (Value.putPairs (Value.textPairs old) (Value.textPairs t ++ rest))) := by
          have hv : v.pairs? = some (Value.textPairs t ++ rest) := hpairs
          simp only [Layer.merge, hv, Value.pairs?_table]
        rw [hmerge]
        exact hstart.ofPairs_putPairs hks hw hpairs
    · rw [merge_eq_of_weak hnone, Given.tableKeys_of_pairs?_eq_none hnone, Table.keysOver_nil_left]
      exact ih hrest hks h

/-- A table put over keyed values is a table.  It has their keys in front and keeps its own values. -/
theorem exists_mergeAll_table {weak : List Given} (hweak : ∀ w ∈ weak, w.value.IsKeyed) {t : Table Value}
    (ht : (Table.keys t).Nodup) :
    ∃ u, Layer.mergeAll (.data (.table t)) weak = .data (.table u) ∧ (Table.keys u).Nodup ∧
      Table.keys u = Table.keysOver (Layer.keysBelow weak) (Table.keys t) ∧
      ∀ k, Table.get? u k = (Table.get? t k).or (weak.findSome? fun w => w.tableValue? k) := by
  induction weak generalizing t with
  | nil => exact ⟨t, rfl, ht, (Table.keysOver_nil_left _).symm, fun k => (Option.or_none).symm⟩
  | cons w weak ih =>
    obtain ⟨hw, hrest⟩ := List.forall_mem_cons.mp hweak
    rw [Layer.mergeAll_cons, Layer.keysBelow, ← Table.keysOver_assoc]
    obtain ⟨old, rfl⟩ | hnone := eq_table_or_pairs?_eq_none hw
    · have hold : (Table.keys old).Nodup := hw
      have hput := Table.nodup_keys_putAll hold t
      obtain ⟨u, hu, hnodup, hkeys, hvalues⟩ := ih hrest hput
      rw [merge_table_table, Table.ofEntries_of_nodup hput]
      refine ⟨u, hu, hnodup, hkeys.trans (by rw [Table.keys_putAll ht]; rfl), fun k => ?_⟩
      rw [hvalues, Table.get?_putAll ht, List.findSome?_cons, Option.or_assoc]
      cases hk : Table.get? old k <;> simp [Given.tableValue?, hk]
    · obtain ⟨u, hu, hnodup, hkeys, hvalues⟩ := ih hrest ht
      rw [merge_eq_of_weak hnone, Given.tableKeys_of_pairs?_eq_none hnone, Table.keysOver_nil_left]
      refine ⟨u, hu, hnodup, hkeys, fun k => ?_⟩
      rw [hvalues, List.findSome?_cons, Given.tableValue?_of_pairs?_eq_none hnone]

/-- A table that was read over keyed values starts with their keys. -/
theorem keysBelow_isPrefix_of_names {strong : Given} {weak : List Given}
    (hweak : ∀ w ∈ weak, w.value.IsKeyed) {t : Table String}
    (h : names (Layer.mergeAll strong weak).value = .ok t) : Layer.keysBelow weak <+: Table.keys t := by
  have hpairs : strong.value.pairs? ≠ none := by
    intro hnone
    rw [mergeAll_eq_of_strong hnone] at h
    obtain ⟨es, hes, -⟩ := names_eq_ok_iff.mp h
    cases hnone.symm.trans hes
  obtain ⟨hstart, hnodup⟩ := startsWith_mergeAll hweak List.nodup_nil (Value.startsWith_nil hpairs)
  rw [Table.keysOver_nil_right] at hstart hnodup
  exact isPrefix_keys_of_names h hnodup hstart

/-! ### Values given again -/

theorem ofCapitals?_upper_capitals (l : Level) :
    Level.ofCapitals? (Text.upper l.capitals) = some l := by
  cases l <;> decide

theorem ofName?_lower_name (f : LogFormat) : LogFormat.ofName? (Text.lower f.name) = some f := by
  cases f <;> decide

theorem read_give (s : Surroundings) {t : FieldType} (ht : t ≠ .names) (a : t.Carrier) :
    read s t (t.give a) = .ok a := by
  cases t with
  | flag => rfl
  | level => simp [read, FieldType.give, Given.value, level, ofCapitals?_upper_capitals]
  | format => simp [read, FieldType.give, Given.value, format, ofName?_lower_name]
  | file =>
    cases a with
    | none => rfl
    | some p => exact congrArg (fun p => Except.ok (some p)) (AbsolutePath.resolve_parts p)
  | text => rfl
  | volume => simp [read, FieldType.give, Given.value, volume, float, asText?, a.high, a.low]
  | size => simp [read, FieldType.give, Given.value, size, int, asText?, a.positive]
  | offset => simp [read, FieldType.give, Given.value, offset, int, asText?]
  | names => exact absurd rfl ht

/-- A table of texts as it is given. -/
def givenTable (t : Table String) : Table Value :=
  t.map fun (k, x) => (k, .text x)

theorem keys_givenTable (t : Table String) : Table.keys (givenTable t) = Table.keys t := by
  rw [Table.keys, givenTable, List.map_map]
  rfl

theorem textEntries_givenTable (t : Table String) :
    textEntries (Value.textPairs (givenTable t)) = (t, []) := by
  induction t with
  | nil => rfl
  | cons e t ih =>
    simp only [givenTable, Value.textPairs, List.map_cons] at ih ⊢
    rw [textEntries, ih]
    rfl

theorem names_givenTable {t : Table String} (h : (Table.keys t).Nodup) :
    names (.table (givenTable t)) = .ok t := by
  refine names_eq_ok_iff.mpr ⟨_, Value.pairs?_table _, ?_, ?_⟩
  · rw [textEntries_givenTable]
  · rw [textEntries_givenTable, Table.ofEntries_of_nodup h]

/-- What was read is read as itself when it is given again, be it a table or not. -/
theorem read_give_of_read {t : FieldType} {g : Given} {a : t.Carrier} (h : read s t g = .ok a) :
    read s t (t.give a) = .ok a := by
  by_cases ht : t = .names
  · subst ht
    exact names_givenTable (nodup_keys_of_names h)
  · exact read_give s ht a

/-- A table that starts with the keys below it stays as it is over them. -/
theorem mergeAll_give_of_isPrefix {weak : List Given} (hweak : ∀ w ∈ weak, w.value.IsKeyed)
    {t : Table String} (ht : (Table.keys t).Nodup) (h : Layer.keysBelow weak <+: Table.keys t) :
    Layer.mergeAll (FieldType.names.give t) weak = FieldType.names.give t := by
  have hgiven : (Table.keys (givenTable t)).Nodup := by rwa [keys_givenTable]
  obtain ⟨u, hu, hnodup, hkeys, hvalues⟩ := exists_mergeAll_table hweak hgiven
  rw [keys_givenTable, Table.keysOver_of_isPrefix h ht] at hkeys
  have hsame : u = givenTable t := by
    refine Table.eq_of_keys_eq hnodup (hkeys.trans (keys_givenTable t).symm) fun k hk => ?_
    have hmem : k ∈ Table.keys (givenTable t) := by rwa [keys_givenTable, ← hkeys]
    obtain ⟨v, hv⟩ := Table.exists_get?_of_mem_keys hmem
    rw [hvalues, hv]
    rfl
  exact hu.trans (congrArg (fun u => Given.data (.table u)) hsame)

/-- What was read over weaker values is read as itself when it is given again over them. -/
theorem read_mergeAll_give {t : FieldType} {strong : Given} {weak : List Given}
    (hweak : ∀ w ∈ weak, w.value.IsKeyed) {a : t.Carrier}
    (h : read s t (Layer.mergeAll strong weak) = .ok a) :
    read s t (Layer.mergeAll (t.give a) weak) = .ok a := by
  by_cases ht : t = .names
  · subst ht
    have hnodup : (Table.keys a).Nodup := nodup_keys_of_names h
    rw [mergeAll_give_of_isPrefix hweak hnodup (keysBelow_isPrefix_of_names hweak h)]
    exact names_givenTable hnodup
  · exact (read_mergeAll_eq_ok_iff ht).mpr (read_give s ht a)

/-- The strongest of several values counts like an empty table put over all of them, if it is a table. -/
theorem read_mergeAll_give_cons {t : FieldType} {w : Given} {weak : List Given}
    (hweak : ∀ w' ∈ w :: weak, w'.value.IsKeyed) {a : t.Carrier}
    (h : read s t (Layer.mergeAll w weak) = .ok a) :
    read s t (Layer.mergeAll (t.give a) (w :: weak)) = .ok a := by
  by_cases ht : t = .names
  · subst ht
    have hw := (List.forall_mem_cons.mp hweak).1
    obtain ⟨old, rfl⟩ | hnone := eq_table_or_pairs?_eq_none hw
    · have hempty : Layer.merge (.data (.table [])) (.data (.table old)) = .data (.table old) := by
        have hold : (Table.keys old).Nodup := hw
        rw [merge_table_table]
        exact congrArg (fun u => Given.data (.table u)) (Table.ofEntries_of_nodup hold)
      have hover : read s .names (Layer.mergeAll (.data (.table [])) (.data (.table old) :: weak)) = .ok a := by
        rw [Layer.mergeAll_cons, hempty]
        exact h
      exact read_mergeAll_give hweak hover
    · rw [mergeAll_eq_of_strong hnone] at h
      obtain ⟨es, hes, -⟩ := names_eq_ok_iff.mp h
      cases hnone.symm.trans hes
  · exact (read_mergeAll_eq_ok_iff ht).mpr (read_give s ht a)

end Coercion

end Daihon

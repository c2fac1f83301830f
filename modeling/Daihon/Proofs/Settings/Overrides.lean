import Daihon.Proofs.Settings.Caching
import Daihon.Proofs.Settings.Files
import Daihon.Proofs.Value.Merging

/-!
# Overrides

Overriding settings builds them anew from all of their fields, over the environment and the files of variables
once more.  The fields that no override names come out as they were, since what was read over other sources is
read as itself over them again (`Loaded.exists_build_giveAll`).  So overrides change only what they name
(`Loaded.overrides_change_what_they_name`).

An override of a table is merged with what the other sources give, and no longer hidden is what the settings
had hidden of it: an entry that is no text is refused although it was never overridden.  Which entries come
through is said by `Coercion.exists_names_mergeAll_iff`, by induction on the weaker values.
-/

namespace Daihon

/-! ### Tables over weaker values -/

namespace Coercion

open Value (textPairs putPairs ofPairs IsProper)

variable {v : Value} {old : Table Value}

theorem exists_names_iff {es : List (Value × Value)} (hpairs : v.pairs? = some es) :
    (∃ t, names v = .ok t) ↔ ∀ e ∈ es, (∃ k, text e.1 = .ok k) ∧ ∃ x, text e.2 = .ok x := by
  simp [names_eq_ok_iff, hpairs, textEntries_snd_eq_nil_iff]

/-- A proper value put over a table is a table of texts if it is one itself, and the values of the table
under other keys are texts. -/
theorem exists_names_putPairs_iff (hv : v.IsProper) {new : List (Value × Value)} (hpairs : v.pairs? = some new)
    (hold : (Table.keys old).Nodup) :
    (∃ t, names (ofPairs (putPairs (textPairs old) new)) = .ok t) ↔
      (∃ t, names v = .ok t) ∧
        ∀ k w, ¬v.HasKey k → Table.get? old k = some w → ∃ x, text w = .ok x := by
  obtain ⟨-, hmem⟩ := hv.distinct_putPairs hpairs hold
  rw [exists_names_iff (hv.pairs?_ofPairs_putPairs hpairs hold), exists_names_iff hpairs]
  constructor
  · intro h
    refine ⟨fun e he => h e ((hmem e).mpr (.inl he)), fun k w hkey hw => ?_⟩
    have hshows := (Value.shows_text_iff hpairs w).mpr hkey
    have hin : (.text k, w) ∈ textPairs old := Value.text_mem_textPairs.mpr (Table.mem_of_get? hw)
    exact (h _ ((hmem _).mpr (.inr ⟨hin, hshows⟩))).2
  · rintro ⟨hnew, holds⟩ e he
    obtain he | ⟨he, hshows⟩ := (hmem e).mp he
    · exact hnew e he
    · obtain ⟨k, w, hw, rfl⟩ := Value.mem_textPairs.mp he
      have hkey := (Value.shows_text_iff hpairs w).mp hshows
      exact ⟨⟨k, rfl⟩, holds k w hkey ((Table.get?_eq_some_iff hold).mpr hw)⟩

theorem merge_table_of_pairs? {new : List (Value × Value)} (hpairs : v.pairs? = some new) :
    Layer.merge (.data v) (.data (.table old)) = .data (ofPairs (putPairs (textPairs old) new)) := by
  simp only [Layer.merge, hpairs, Value.pairs?_table]

/-- **A value put over weaker ones is a table of texts if it is one itself, and what it does not hide of them
are texts.**  The strongest of the weaker values under a key decides. -/
theorem exists_names_mergeAll_iff {weak : List Given} (hweak : ∀ w ∈ weak, w.value.IsKeyed) (hv : v.IsProper) :
    (∃ t, names (Layer.mergeAll (.data v) weak).value = .ok t) ↔
      (∃ t, names v = .ok t) ∧
        ∀ k w, ¬v.HasKey k → weak.findSome? (·.tableValue? k) = some w → ∃ x, text w = .ok x := by
  induction weak generalizing v with
  | nil => simp [Layer.mergeAll, Given.value]
  | cons g weak ih =>
    obtain ⟨hg, hrest⟩ := List.forall_mem_cons.mp hweak
    rw [Layer.mergeAll_cons]
    obtain ⟨old, rfl⟩ | hnone := eq_table_or_pairs?_eq_none hg
    · have hold : (Table.keys old).Nodup := hg
      cases hpairs : v.pairs? with
      | none =>
        -- A value without entries stays as it is, and is no table.
        have hno : ¬∃ t, names v = .ok t := by simp [names_eq_ok_iff, hpairs]
        have hgiven : (Given.data v).value.pairs? = none := hpairs
        rw [merge_eq_of_strong hgiven, mergeAll_eq_of_strong hgiven]
        exact iff_of_false hno fun h => hno h.1
      | some new =>
        rw [merge_table_of_pairs? hpairs, ih hrest (hv.ofPairs_putPairs hpairs hold),
          exists_names_putPairs_iff hv hpairs hold, and_assoc]
        refine and_congr_right fun _ => ?_
        simp only [hv.hasKey_ofPairs_putPairs hpairs hold, ← forall_and]
        refine forall_congr' fun k => ?_
        rw [List.findSome?_cons, Given.tableValue?]
        by_cases hk : k ∈ Table.keys old
        · obtain ⟨w, hw⟩ := Table.exists_get?_of_mem_keys hk
          simp [hk, hw]
        · simp [hk, Table.get?_eq_none_of_notMem hk]
    · rw [merge_eq_of_weak hnone, ih hrest hv]
      simp only [List.findSome?_cons, Given.tableValue?_of_pairs?_eq_none hnone]

/-- A value put over weaker ones is read for a field if it is read alone, and for a field of tables if what it
does not hide of the weaker ones are texts. -/
theorem exists_read_mergeAll_iff {s : Surroundings} {t : FieldType} {weak : List Given}
    (hweak : ∀ w ∈ weak, w.value.IsKeyed) (hv : v.IsProper) :
    (∃ a, read s t (Layer.mergeAll (.data v) weak) = .ok a) ↔
      (∃ a, read s t (.data v) = .ok a) ∧
        (t = .names → ∀ k w, ¬v.HasKey k → weak.findSome? (·.tableValue? k) = some w →
          ∃ x, text w = .ok x) := by
  by_cases ht : t = .names
  · subst ht
    refine (exists_names_mergeAll_iff hweak hv).trans (and_congr_right fun _ => ?_)
    exact ⟨fun h _ => h, fun h => h rfl⟩
  · simp only [read_mergeAll_eq_ok_iff ht, ht, false_implies, and_true]

end Coercion

/-! ### Values in surroundings -/

/-- Whether a value is read for a field if nothing else is given for it. -/
def Field.Accepts (s : Surroundings) (f : Field) (v : Value) : Prop :=
  ∃ a, Coercion.read s f.type (.data v) = .ok a

/-- What the sources besides the caller give under a key of a table, the strongest of them first. -/
def Surroundings.entry? (s : Surroundings) (f : Field) (key : String) : Option Value :=
  match s.layers .usual with
  | .error _ => none
  | .ok layers => (Layer.valuesFor layers f).findSome? (·.tableValue? key)

namespace Loaded

variable {s : Surroundings} {layers : List Layer} {l : Loaded} {overrides : Table Value} {f : Field}

/-! ### Loaded settings -/

/-- Whether settings were loaded in some surroundings: from the environment, from a configuration file, from
several of them, from the standard places or for a command, with overrides or without. -/
inductive IsLoaded (s : Surroundings) : Loaded → Prop
  | environment {l : Loaded} (h : fromEnvironment s = .ok l) : IsLoaded s l
  | file {file : String} {l : Loaded} (hfile : IsPlainFile s file) (h : fromFile s (.ofText file) = .ok l) :
    IsLoaded s l
  | sources {files : List String} {overrides : Table Value} {l : Loaded}
    (hoverrides : SourceOptions.IsSilent overrides) (h : (fromSources s files overrides).1 = .ok l) :
    IsLoaded s l
  | standard {l : Loaded} (h : (standard s).1 = .ok l) : IsLoaded s l
  | namedFile {path : Path} {overrides : Table Value} {l : Loaded}
    (hoverrides : SourceOptions.IsSilent overrides) (h : (fromNamedFile s path overrides).1 = .ok l) :
    IsLoaded s l
  | override {overrides : Table Value} {l l' : Loaded} (hl : IsLoaded s l)
    (hoverrides : SourceOptions.IsSilent overrides) (h : l.override s overrides = .ok l') : IsLoaded s l'

/-- Whether settings come from a layer over the sources besides the caller, which can be read. -/
def IsOverSources (s : Surroundings) (l : Loaded) : Prop :=
  ∃ layers, s.layers .usual = .ok layers ∧ l.IsOver s layers

theorem exists_layers_of_build {caller : Layer} (h : build s .usual caller = .ok l) :
    ∃ layers, s.layers .usual = .ok layers ∧ ofLayer s (caller.aboveAll layers) = .ok l := by
  unfold build at h
  cases hlayers : s.layers .usual with
  | error e =>
    rw [hlayers] at h
    cases h
  | ok layers =>
    rw [hlayers] at h
    exact ⟨layers, rfl, h⟩

/-- Settings that are built come from the caller's layer over the other sources. -/
theorem isOverSources_of_build {caller : Layer} (h : build s .usual caller = .ok l) : l.IsOverSources s := by
  obtain ⟨layers, hlayers, hl⟩ := exists_layers_of_build h
  exact ⟨layers, hlayers, caller, hl⟩

theorem isSilent_withoutNull (h : SourceOptions.IsSilent overrides) :
    SourceOptions.IsSilent (Layer.withoutNull overrides) := by
  intro key hkey
  obtain ⟨e, he, rfl⟩ := List.mem_map.mp hkey
  exact h e.1 (List.mem_map_of_mem (List.mem_of_mem_filter he))

/-- All fields of settings, and in place of some of them what overrides give. -/
def overridden (l : Loaded) (overrides : Table Value) : Layer :=
  l.giveAll.update (.ofNames (Layer.withoutNull overrides))

theorem override_of_isEmpty (h : (Layer.withoutNull overrides).isEmpty) : l.override s overrides = .ok l :=
  if_pos h

theorem override_of_isSilent (h : SourceOptions.IsSilent overrides)
    (hsome : ¬(Layer.withoutNull overrides).isEmpty) :
    l.override s overrides = build s .usual (l.overridden overrides) := by
  simp only [override, if_neg hsome, SourceOptions.ofTable_of_isSilent (isSilent_withoutNull h), overridden]

theorem fromSources_eq_bind (files : List String) (overrides : Table Value) :
    (fromSources s files overrides).1 = (fromSources s files []).1.bind (·.override s overrides) := by
  unfold fromSources
  rcases gather s .empty files with ⟨e | given, notices⟩
  · rfl
  · cases hbuild : build s .usual given <;> simp only [hbuild] <;> rfl

theorem fromSources_nil : (fromSources s [] []).1 = fromEnvironment s := by
  have hgather : gather s .empty [] = (.ok .empty, []) := rfl
  have hnone : ∀ l : Loaded, l.override s [] = .ok l := fun l => override_of_isEmpty rfl
  simp only [fromSources, hgather, fromEnvironment]
  cases build s .usual .empty with
  | error e => rfl
  | ok l => exact hnone l

/-- The standard loading puts the files at the standard places together, even if there are none. -/
theorem standard_eq_bind :
    (standard s).1 = (standardFiles s).bind fun paths => (fromSources s (paths.map Path.text) []).1 := by
  unfold standard
  rcases standardFiles s with e | ⟨_ | ⟨path, paths⟩⟩
  · rfl
  · exact fromSources_nil.symm
  · rfl

/-- Settings that come about from files are what these give together, over the other sources. -/
theorem exists_of_fromSources {files : List String} {l : Loaded} (h : (fromSources s files []).1 = .ok l) :
    ∃ given notices layers, gather s .empty files = (.ok given, notices) ∧
      s.layers .usual = .ok layers ∧ ofLayer s (given.aboveAll layers) = .ok l := by
  unfold fromSources at h
  rcases hgather : gather s .empty files with ⟨e | given, notices⟩ <;> rw [hgather] at h
  · cases h
  · cases hbuild : build s .usual given with
    | error e => simp [hbuild] at h
    | ok l' =>
      have hsame : l'.override s [] = .ok l' := override_of_isEmpty rfl
      obtain rfl : l' = l := by simpa [hbuild, hsame] using h
      obtain ⟨layers, hlayers, hl⟩ := exists_layers_of_build hbuild
      exact ⟨given, notices, layers, rfl, hlayers, hl⟩

theorem isOverSources_of_fromSources {files : List String} (h : (fromSources s files []).1 = .ok l) :
    l.IsOverSources s := by
  obtain ⟨given, -, layers, -, hlayers, hl⟩ := exists_of_fromSources h
  exact ⟨layers, hlayers, given, hl⟩

theorem IsOverSources.override (hover : l.IsOverSources s) (hoverrides : SourceOptions.IsSilent overrides)
    {l' : Loaded} (h : l.override s overrides = .ok l') : l'.IsOverSources s := by
  by_cases hnone : (Layer.withoutNull overrides).isEmpty
  · rw [override_of_isEmpty hnone] at h
    obtain rfl := Except.ok.inj h
    exact hover
  · rw [override_of_isSilent hoverrides hnone] at h
    exact isOverSources_of_build h

theorem isOverSources_of_overriding {files : List String} (hoverrides : SourceOptions.IsSilent overrides)
    (h : (fromSources s files overrides).1 = .ok l) : l.IsOverSources s := by
  rw [fromSources_eq_bind] at h
  obtain ⟨l', hl', h⟩ := exists_of_bind_eq_ok h
  exact (isOverSources_of_fromSources hl').override hoverrides h

/-- Loaded settings come from a layer over the sources besides the caller. -/
theorem IsLoaded.isOverSources (hl : IsLoaded s l) : l.IsOverSources s := by
  induction hl with
  | environment h => exact isOverSources_of_build h
  | file hfile h =>
    unfold fromFile at h
    split at h
    · cases h
    · next data hdata =>
      rw [ofTable, SourceOptions.ofTable_of_isSilent (hfile data hdata)] at h
      exact isOverSources_of_build h
  | sources hoverrides h => exact isOverSources_of_overriding hoverrides h
  | standard h =>
    rw [standard_eq_bind] at h
    obtain ⟨paths, -, h⟩ := exists_of_bind_eq_ok h
    exact isOverSources_of_fromSources h
  | namedFile hoverrides h =>
    unfold fromNamedFile at h
    split at h
    · cases h
    · exact isOverSources_of_overriding hoverrides h
    · cases h
  | override _ hoverrides h ih => exact ih.override hoverrides h

/-! ### Fields of overridden settings -/

theorem overridden_of_none (h : Table.get? (Layer.withoutNull overrides) f.name = none) :
    l.overridden overrides f = some (f.type.give (l.settings.get f)) := by
  simp [overridden, Layer.update, Layer.ofNames, giveAll, h]

theorem overridden_of_some {v : Value} (h : Table.get? (Layer.withoutNull overrides) f.name = some v) :
    l.overridden overrides f = some (.data v) := by
  simp [overridden, Layer.update, Layer.ofNames, h]

theorem overridden_of_isEmpty (h : (Layer.withoutNull overrides).isEmpty) : l.overridden overrides = l.giveAll := by
  rw [List.isEmpty_iff] at h
  funext f
  rw [overridden_of_none (by rw [h]; rfl), giveAll]

section Over

variable (hlayers : s.layers .usual = .ok layers) (hover : l.IsOver s layers)

include hlayers hover

/-- Settings are built again from all of their fields. -/
theorem exists_build_giveAll : ∃ l', build s .usual l.giveAll = .ok l' ∧ l'.settings = l.settings := by
  have hfield : ∀ f, fieldValue s (l.giveAll.aboveAll layers) f = .ok (l.settings.get f) := fun f =>
    hover.fieldValue_give (Surroundings.isKeyed_of_layers hlayers) rfl
  obtain ⟨l', hl'⟩ := exists_ofLayer fun f => ⟨_, hfield f⟩
  refine ⟨l', by simp only [build, hlayers, hl'], ?_⟩
  have hsame : l'.settings.get = l.settings.get :=
    funext fun f => Except.ok.inj ((fieldValue_of_ofLayer hl' f).symm.trans (hfield f))
  rw [← Settings.ofFields_get l'.settings, hsame, Settings.ofFields_get]

variable (hoverrides : SourceOptions.IsSilent overrides)

include hoverrides

/-- Overridden settings have in each field what is read for it over the sources besides the caller. -/
theorem fieldValue_of_override {l' : Loaded} (h : l.override s overrides = .ok l') (f : Field) :
    fieldValue s ((l.overridden overrides).aboveAll layers) f = .ok (l'.settings.get f) := by
  by_cases hnone : (Layer.withoutNull overrides).isEmpty
  · rw [override_of_isEmpty hnone] at h
    obtain rfl := Except.ok.inj h
    rw [overridden_of_isEmpty hnone]
    exact hover.fieldValue_give (Surroundings.isKeyed_of_layers hlayers) rfl
  · rw [override_of_isSilent hoverrides hnone] at h
    simp only [build, hlayers] at h
    exact fieldValue_of_ofLayer h f

/-- Overriding succeeds if every field is read. -/
theorem exists_override_iff :
    (∃ l', l.override s overrides = .ok l') ↔
      ∀ f, ∃ a, fieldValue s ((l.overridden overrides).aboveAll layers) f = .ok a := by
  constructor
  · rintro ⟨l', h⟩ f
    exact ⟨_, fieldValue_of_override hlayers hover hoverrides h f⟩
  · intro h
    by_cases hnone : (Layer.withoutNull overrides).isEmpty
    · exact ⟨l, override_of_isEmpty hnone⟩
    · obtain ⟨l', hl'⟩ := exists_ofLayer h
      exact ⟨l', by simp only [override_of_isSilent hoverrides hnone, build, hlayers, hl']⟩

omit hoverrides in
/-- A field that no override names is read as itself again, and any other one as its override over the sources
besides the caller. -/
theorem exists_fieldValue_overridden_iff (hproper : ∀ e ∈ overrides, e.2.IsProper) (f : Field) :
    (∃ a, fieldValue s ((l.overridden overrides).aboveAll layers) f = .ok a) ↔
      ∀ v, Table.get? (Layer.withoutNull overrides) f.name = some v → f.Accepts s v ∧
        (f.type = .names → ∀ k w, ¬v.HasKey k → s.entry? f k = some w → ∃ x, Coercion.text w = .ok x) := by
  have hkeyed := Surroundings.isKeyed_of_layers hlayers
  cases hv : Table.get? (Layer.withoutNull overrides) f.name with
  | none =>
    have hread := hover.fieldValue_give hkeyed (overridden_of_none (l := l) hv)
    exact iff_of_true ⟨_, hread⟩ nofun
  | some v =>
    have hvalue : v.IsProper := hproper _ (List.mem_of_mem_filter (Table.mem_of_get? hv))
    rw [fieldValue, Layer.aboveAll_of_some (overridden_of_some hv)]
    simp only [Option.some.injEq, forall_eq']
    simp only [Surroundings.entry?, hlayers]
    exact Coercion.exists_read_mergeAll_iff (Layer.IsKeyed.of_mem_valuesFor hkeyed) hvalue

end Over

end Loaded

/-! ### Settings for a command -/

namespace Session

open Loaded (standardFiles fromSources)

/-- The settings of a command without a configuration file are the global ones with its overrides. -/
theorem answer_forCommand_none (session : Session) (overrides : Table Value) :
    (session.forCommand none overrides).answer.map Held.loaded =
      (session.global.answer.map Held.loaded).bind (·.override session.surroundings overrides) := by
  have haround := surroundings_global session
  rcases hglobal : session.global with ⟨e | held, session', notices⟩
  · simp only [forCommand, hglobal]
    rfl
  · rw [hglobal] at haround
    simp only [forCommand, hglobal]
    by_cases hnone : (Layer.withoutNull overrides).isEmpty
    · rw [if_pos hnone]
      exact (Loaded.override_of_isEmpty hnone).symm
    · rw [if_neg hnone]
      refine (answer_holding session' _).trans ?_
      exact congrArg (held.loaded.override · overrides) haround

/-- Where nothing is kept, these are the settings of the files at the standard places with its overrides. -/
theorem answer_forCommand_of_cache {session : Session} (h : session.cache = none) (overrides : Table Value) :
    (session.forCommand none overrides).answer.map Held.loaded =
      (standardFiles session.surroundings).bind fun paths =>
        (fromSources session.surroundings (paths.map Path.text) overrides).1 := by
  rw [answer_forCommand_none, answer_global_of_cache h, Loaded.standard_eq_bind]
  cases standardFiles session.surroundings with
  | error e => rfl
  | ok paths => exact (Loaded.fromSources_eq_bind _ overrides).symm

end Session

namespace Loaded

variable {f : Field}

/-! ### Overrides of loaded settings -/

/-- **What overriding settings comes to.**

Settings that were loaded are built again from their own fields, so overrides change only what they name: any
other field keeps its value, and a field of no table that is named has its override, as it is read alone.

Overriding fails exactly if an override that is not null is refused for a known field, or if one for a table
leaves an entry of the sources besides the caller in force, under a key that it does not have itself, whose
value is no text.

The settings of a command without a configuration file come about like those of the files at the standard
places with its overrides. -/
theorem overrides_change_what_they_name (s : Surroundings) :
    (∀ l, IsLoaded s l → ∃ l', build s .usual l.giveAll = .ok l' ∧ l'.settings = l.settings) ∧
      (∀ l overrides, IsLoaded s l → SourceOptions.IsSilent overrides → (∀ e ∈ overrides, e.2.IsProper) →
        (∀ l', l.override s overrides = .ok l' → ∀ f,
          (Table.get? (Layer.withoutNull overrides) f.name = none →
              l'.settings.get f = l.settings.get f) ∧
            ∀ v, Table.get? (Layer.withoutNull overrides) f.name = some v → f.type ≠ .names →
              Coercion.read s f.type (.data v) = .ok (l'.settings.get f)) ∧
          ((∃ e, l.override s overrides = .error e) ↔
            ∃ f v, Table.get? (Layer.withoutNull overrides) f.name = some v ∧
              (¬f.Accepts s v ∨
                f.type = .names ∧ ∃ k w, ¬v.HasKey k ∧ s.entry? f k = some w ∧
                  ∀ x, Coercion.text w ≠ .ok x))) ∧
      ∀ session : Session, session.surroundings = s → session.cache = none → ∀ overrides,
        (session.forCommand none overrides).answer.map Held.loaded =
          (standardFiles s).bind fun paths => (fromSources s (paths.map Path.text) overrides).1 := by
  refine ⟨?_, ?_, ?_⟩
  · intro l hl
    obtain ⟨layers, hlayers, hover⟩ := hl.isOverSources
    exact exists_build_giveAll hlayers hover
  · intro l overrides hl hoverrides hproper
    obtain ⟨layers, hlayers, hover⟩ := hl.isOverSources
    have hkeyed := Surroundings.isKeyed_of_layers hlayers
    constructor
    · intro l' hl' f
      have hread := fieldValue_of_override hlayers hover hoverrides hl' f
      constructor
      · intro hnone
        have hkeep := hover.fieldValue_give hkeyed (overridden_of_none (l := l) hnone)
        exact Except.ok.inj (hread.symm.trans hkeep)
      · intro v hv hf
        rw [fieldValue, Layer.aboveAll_of_some (overridden_of_some hv)] at hread
        exact (Coercion.read_mergeAll_eq_ok_iff hf).mp hread
    · have hfails : (∃ e, l.override s overrides = .error e) ↔ ¬∃ l', l.override s overrides = .ok l' := by
        cases l.override s overrides <;> simp
      rw [hfails, exists_override_iff hlayers hover hoverrides]
      simp only [exists_fieldValue_overridden_iff hlayers hover hproper]
      simp only [not_forall, not_and_or, not_exists, exists_prop]
  · rintro session rfl hcache overrides
    exact Session.answer_forCommand_of_cache hcache overrides

/-- An entry of the environment that is no text and is hidden by a configuration file, a file of variables with
another entry, and a configuration file that says not to look there. -/
def mixedKeys : Surroundings where
  disk :=
    ⟨[(workDirectory, .directory), (homeDirectory, .directory),
      (["work", ".env"], .file (Encoding.Utf8.encode "VNSCRIPT_CHARACTER_KEYS=\x7b\"c\": \"d\"\x7d".toList)),
      (["work", "vnscript.json"],
        .file (Encoding.Utf8.encode "\x7b\"character_keys\": \x7b\"b\": \"ok\"\x7d\x7d".toList)),
      (["work", "alone.json"],
        .file (Encoding.Utf8.encode
          "\x7b\"_env_file\": null, \"character_keys\": \x7b\"b\": \"ok\"\x7d\x7d".toList))]⟩
  environment := [(homeVariable, homeText), ("VNSCRIPT_CHARACTER_KEYS", "\x7b\"b\": 2\x7d")]

/-- An override of a table, with one entry. -/
def keysOverride : Table Value :=
  [("character_keys", .table [("a", .text "x")])]

/-- An override of a field that is no table, and one that is null. -/
def debugOverride : Table Value :=
  [("debug", .text "yes"), ("log_level", .null)]

theorem standard_mixedKeys :
    ∃ l, (standard mixedKeys).1 = .ok l ∧ l.settings.characterKeys = [("c", "d"), ("b", "ok")] ∧
      (∃ l', l.override mixedKeys debugOverride = .ok l') ∧
      ∃ e, l.override mixedKeys keysOverride = .error e := by
  have hload : ((standard mixedKeys).1.toOption.map fun l => (l.settings.characterKeys,
      (l.override mixedKeys debugOverride).toBool, (l.override mixedKeys keysOverride).toBool)) =
      some ([("c", "d"), ("b", "ok")], true, false) := by decide +kernel
  obtain ⟨l, hl, hall⟩ := exists_of_map_toOption hload
  obtain ⟨hkeys, hboth⟩ := Prod.mk.inj hall
  obtain ⟨hok, hfails⟩ := Prod.mk.inj hboth
  refine ⟨l, hl, hkeys, ?_, ?_⟩
  · cases h : l.override mixedKeys debugOverride with
    | ok l' => exact ⟨l', rfl⟩
    | error e =>
      rw [h] at hok
      cases hok
  · cases h : l.override mixedKeys keysOverride with
    | error e => exact ⟨e, rfl⟩
    | ok l' =>
      rw [h] at hfails
      cases hfails

theorem accepts_keysOverride {v : Value}
    (hv : Table.get? (Layer.withoutNull keysOverride) f.name = some v) : f.Accepts mixedKeys v := by
  have hmem : (f.name, v) ∈ keysOverride := List.mem_of_mem_filter (Table.mem_of_get? hv)
  obtain ⟨hname, rfl⟩ := Prod.mk.inj (List.mem_singleton.mp hmem)
  have hf : f = .characterKeys := by
    cases f <;> first | rfl | exact absurd hname (by decide)
  subst hf
  exact ⟨[("a", "x")], rfl⟩

/-- An override that is valid for itself fails where it no longer hides the entry of the environment, and the
settings of a file that says not to look at the file of variables are not built again from their fields. -/
theorem override_of_accepted_fails :
    (∃ l, (standard mixedKeys).1 = .ok l ∧ SourceOptions.IsSilent keysOverride ∧
        (∀ (f : Field) v, Table.get? (Layer.withoutNull keysOverride) f.name = some v →
          f.Accepts mixedKeys v) ∧
        ∃ e, l.override mixedKeys keysOverride = .error e) ∧
      ∃ l l', fromFile mixedKeys (.ofText "alone.json") = .ok l ∧
        build mixedKeys .usual l.giveAll = .ok l' ∧ l'.settings ≠ l.settings := by
  constructor
  · obtain ⟨l, hl, -, -, hfails⟩ := standard_mixedKeys
    exact ⟨l, hl, by decide, fun f v => accepts_keysOverride, hfails⟩
  · have hload : ((fromFile mixedKeys (.ofText "alone.json")).toOption.map fun l =>
        (l.settings.characterKeys,
          (build mixedKeys .usual l.giveAll).toOption.map (·.settings.characterKeys))) =
        some ([("b", "ok")], some [("c", "d"), ("b", "ok")]) := by decide +kernel
    obtain ⟨l, hl, hkeys⟩ := exists_of_map_toOption hload
    obtain ⟨hbefore, hrest⟩ := Prod.mk.inj hkeys
    obtain ⟨l', hl', hafter⟩ := exists_of_map_toOption hrest
    refine ⟨l, l', hl, hl', fun hsame => ?_⟩
    rw [hsame, hbefore] at hafter
    exact absurd hafter (by decide)

/-- The settings that are loaded here are built again, and an override of another field keeps their table.  An
override of the table fails for the entry of the environment. -/
theorem overrides_change_what_they_name_mixedKeys :
    ∃ l, (standard mixedKeys).1 = .ok l ∧
      (∃ l', build mixedKeys .usual l.giveAll = .ok l' ∧ l'.settings = l.settings) ∧
      (∃ l', l.override mixedKeys debugOverride = .ok l' ∧
        l'.settings.debug = true ∧ l'.settings.characterKeys = [("c", "d"), ("b", "ok")]) ∧
      ∃ e, l.override mixedKeys keysOverride = .error e := by
  obtain ⟨l, hl, hkeys, ⟨l', hl'⟩, -⟩ := standard_mixedKeys
  have hloaded : IsLoaded mixedKeys l := .standard hl
  obtain ⟨hagain, hoverriding, -⟩ := overrides_change_what_they_name mixedKeys
  refine ⟨l, hl, hagain l hloaded, ⟨l', hl', ?_⟩, ?_⟩
  · have hproper : ∀ e ∈ debugOverride, e.2.IsProper := by
      simp only [debugOverride, List.forall_mem_cons]
      exact ⟨nofun, nofun, List.forall_mem_nil _⟩
    have hfields := (hoverriding l _ hloaded (by decide) hproper).1 l' hl'
    have hdebug : Coercion.read mixedKeys .flag (.data (.text "yes")) = .ok (l'.settings.get .debug) :=
      (hfields .debug).2 _ rfl (by decide)
    have htable : l'.settings.characterKeys = l.settings.characterKeys := (hfields .characterKeys).1 rfl
    exact ⟨(Except.ok.inj hdebug).symm, htable.trans hkeys⟩
  · have hproper : ∀ e ∈ keysOverride, e.2.IsProper := by
      intro e he
      obtain rfl := List.mem_singleton.mp he
      rintro es ⟨⟩
      exact ⟨List.pairwise_singleton _ _, rfl⟩
    have hentry : (mixedKeys.entry? .characterKeys "b").map (fun w => (Coercion.text w).toBool) = some false := by
      decide +kernel
    obtain ⟨w, hw, htext⟩ := Option.map_eq_some_iff.mp hentry
    have hrefused : ∀ x, Coercion.text w ≠ .ok x := by
      intro x hx
      rw [hx] at htext
      cases htext
    have hkey : ¬Value.HasKey (.table [("a", .text "x")]) "b" := by
      simp [Value.HasKey, Value.pairs?]
    exact (hoverriding l _ hloaded (by decide) hproper).2.mpr
      ⟨.characterKeys, _, rfl, .inr ⟨rfl, "b", w, hkey, hw, hrefused⟩⟩

end Loaded

end Daihon

import Daihon.Proofs.Settings.Layers
import Daihon.Settings.Loading

/-!
# Configuration files and the environment

Each configuration file is loaded over the environment, and what was given for its fields, be it by the
file or by the environment, is put over what the files before it gave.  So the files are put over the
environment only one by one: a value of a file stays where it is the last file or the environment is
silent, and otherwise a file after it brings the value of the environment back
(`Loaded.fromSources_of_last_set`).

That the settings come about at all follows from what each file is loaded as
(`Loaded.exists_build_gathered`).
-/

namespace Daihon

namespace Loaded

variable {s : Surroundings} {layers : List Layer}

/-! ### What loaded settings give together -/

/-- What a row of settings gives, each put over the ones before it and over what was given at first. -/
def gathered (given : Layer) (ls : List Loaded) : Layer :=
  ls.foldl (fun given l => given.update l.giveSet) given

theorem gathered_cons (given : Layer) (l : Loaded) (ls : List Loaded) :
    gathered given (l :: ls) = gathered (given.update l.giveSet) ls := rfl

theorem gathered_append (given : Layer) (ls ls' : List Loaded) :
    gathered given (ls ++ ls') = gathered (gathered given ls) ls' :=
  List.foldl_append

/-- What no settings give is what was given before. -/
theorem gathered_of_forall {given : Layer} {ls : List Loaded} {f : Field}
    (h : ∀ l ∈ ls, l.given f = false) : gathered given ls f = given f := by
  induction ls generalizing given with
  | nil => rfl
  | cons l ls ih =>
    obtain ⟨hl, hls⟩ := List.forall_mem_cons.mp h
    rw [gathered_cons, ih hls]
    simp [Layer.update, giveSet, hl]

theorem gathered_of_last {given : Layer} {before after : List Loaded} {l : Loaded} {f : Field}
    (hl : l.given f = true) (hafter : ∀ l' ∈ after, l'.given f = false) :
    gathered given (before ++ l :: after) f = some (f.type.give (l.settings.get f)) := by
  rw [gathered_append, gathered_cons, gathered_of_forall hafter]
  simp [Layer.update, giveSet, hl]

/-- Either no settings give a field, or some are the last to give it. -/
theorem exists_last_given (ls : List Loaded) (f : Field) :
    (∀ l ∈ ls, l.given f = false) ∨
      ∃ before l after, ls = before ++ l :: after ∧ l.given f = true ∧
        ∀ l' ∈ after, l'.given f = false := by
  induction ls with
  | nil => exact .inl (List.forall_mem_nil _)
  | cons l ls ih =>
    obtain hnone | ⟨before, l', after, rfl, hl', hafter⟩ := ih
    · cases hl : l.given f with
      | true => exact .inr ⟨[], l, ls, rfl, hl, hnone⟩
      | false => exact .inl (List.forall_mem_cons.mpr ⟨hl, hnone⟩)
    · exact .inr ⟨l :: before, l', after, rfl, hl', hafter⟩

/-! ### Settings over the environment -/

/-- Whether settings come from a layer over weaker ones. -/
def IsOver (s : Surroundings) (layers : List Layer) (l : Loaded) : Prop :=
  ∃ strong : Layer, ofLayer s (strong.aboveAll layers) = .ok l

theorem IsOver.given_of_isSome {l : Loaded} (hl : l.IsOver s layers) {f : Field}
    (hf : (Layer.empty.aboveAll layers f).isSome) : l.given f = true := by
  obtain ⟨strong, hl⟩ := hl
  rw [given_of_ofLayer hl, Layer.isSome_aboveAll, hf, Bool.or_true]

theorem read_give_default (s : Surroundings) (f : Field) :
    Coercion.read s f.type (f.type.give (Settings.default.get f)) = .ok (Settings.default.get f) := by
  by_cases hf : f.type = .names
  · cases f with
    | characterKeys =>
      have hkeys : (Settings.default.characterKeys.map Prod.fst).Nodup := by decide
      exact Coercion.names_givenTable hkeys
    | characterNames =>
      have hkeys : (Settings.default.characterNames.map Prod.fst).Nodup := by decide
      exact Coercion.names_givenTable hkeys
    | _ => cases hf
  · exact Coercion.read_give s hf _

/-- A field of settings over weaker layers is read as itself when it is given again over them. -/
theorem IsOver.fieldValue_give {l : Loaded} (hl : l.IsOver s layers)
    (hkeyed : ∀ layer ∈ layers, layer.IsKeyed) {f : Field} {layer : Layer}
    (hlayer : layer f = some (f.type.give (l.settings.get f))) :
    fieldValue s (layer.aboveAll layers) f = .ok (l.settings.get f) := by
  obtain ⟨strong, hl⟩ := hl
  have hread := fieldValue_of_ofLayer hl f
  have hvalues := Layer.IsKeyed.of_mem_valuesFor hkeyed (f := f)
  rw [fieldValue, Layer.aboveAll_of_some hlayer]
  cases hstrong : strong f with
  | some g =>
    rw [fieldValue, Layer.aboveAll_of_some hstrong] at hread
    exact Coercion.read_mergeAll_give hvalues hread
  | none =>
    rw [fieldValue, Layer.aboveAll_of_none hstrong] at hread
    obtain ⟨hnil, hnone⟩ | ⟨w, rest, hcons, hsome⟩ := Layer.aboveAll_empty layers f
    · -- Nothing gives the field, so it has its default.
      rw [hnone] at hread
      obtain hdefault := Except.ok.inj hread
      rw [hnil, ← hdefault]
      exact read_give_default s f
    · rw [hsome] at hread
      rw [hcons] at hvalues ⊢
      exact Coercion.read_mergeAll_give_cons hvalues hread

/-- Settings that come about over the environment also come about together. -/
theorem exists_build_gathered (hlayers : s.layers .usual = .ok layers) {ls : List Loaded} (hls : ls ≠ [])
    (hover : ∀ l ∈ ls, l.IsOver s layers) : ∃ l, build s .usual (gathered .empty ls) = .ok l := by
  simp only [build, hlayers]
  refine exists_ofLayer fun f => ?_
  obtain hnone | ⟨before, l, after, rfl, hl, hafter⟩ := exists_last_given ls f
  · -- No settings give the field, so the environment does not either.
    have hlayer : gathered .empty ls f = none := gathered_of_forall hnone
    have hw : Layer.empty.aboveAll layers f = none := by
      obtain ⟨l, hl⟩ := List.exists_mem_of_ne_nil ls hls
      by_contra hw
      have hgiven := (hover l hl).given_of_isSome (Option.isSome_iff_ne_none.mpr hw)
      exact Bool.false_ne_true ((hnone l hl).symm.trans hgiven)
    exact ⟨Settings.default.get f, by rw [fieldValue, Layer.aboveAll_of_none hlayer, hw]⟩
  · exact ⟨_, (hover l (by simp)).fieldValue_give (Surroundings.isKeyed_of_layers hlayers)
      (gathered_of_last hl hafter)⟩

/-! ### Configuration files -/

/-- What a configuration file gives for each field. -/
def configLayer (s : Surroundings) (file : String) : Layer :=
  match configData s (.ofText file) with
  | .ok data => .ofTable .usual data
  | .error _ => .empty

/-- Whether a configuration file is there and valid, and says nothing about the other sources. -/
structure IsValidFile (s : Surroundings) (file : String) : Prop where
  silent : ∀ data, configData s (.ofText file) = .ok data → SourceOptions.IsSilent data
  loads : ∃ l, fromFile s (.ofText file) = .ok l

instance (s : Surroundings) (file : String) : Decidable (IsValidFile s file) :=
  match hl : fromFile s (.ofText file), hdata : configData s (.ofText file) with
  | .error e, _ => .isFalse fun h => by
    obtain ⟨l, h⟩ := h.loads
    cases hl.symm.trans h
  | .ok l, .error e => .isTrue ⟨fun _ h => (nomatch hdata.symm.trans h), ⟨l, hl⟩⟩
  | .ok l, .ok data =>
    if h : SourceOptions.IsSilent data then
      .isTrue ⟨fun _ h' => Except.ok.inj (hdata.symm.trans h') ▸ h, ⟨l, hl⟩⟩
    else .isFalse fun h' => h (h'.silent data hdata)

/-- A file is loaded over the environment. -/
theorem ofLayer_of_fromFile (hlayers : s.layers .usual = .ok layers) {file : String}
    (hfile : IsValidFile s file) {l : Loaded} (hl : fromFile s (.ofText file) = .ok l) :
    ofLayer s ((configLayer s file).aboveAll layers) = .ok l := by
  unfold fromFile at hl
  cases hdata : configData s (.ofText file) with
  | error e => simp [hdata] at hl
  | ok data =>
    simp only [hdata, ofTable, SourceOptions.ofTable_of_isSilent (hfile.silent data hdata), build,
      hlayers] at hl
    simpa only [configLayer, hdata] using hl

theorem gather_of_loads {files : List String} {load : String → Loaded}
    (h : ∀ file ∈ files, fromFile s (.ofText file) = .ok (load file)) (given : Layer) :
    gather s given files = (.ok (gathered given (files.map load)), []) := by
  induction files generalizing given with
  | nil => rfl
  | cons file files ih =>
    obtain ⟨hfile, hfiles⟩ := List.forall_mem_cons.mp h
    rw [gather, hfile]
    exact ih hfiles _

/-- What a file sets is read for its field, whatever the environment gives. -/
theorem read_of_configLayer {file : String} {l : Loaded} {f : Field} {g : Given}
    (hl : ofLayer s ((configLayer s file).aboveAll layers) = .ok l) (hf : f.type ≠ .names)
    (hg : configLayer s file f = some g) : Coercion.read s f.type g = .ok (l.settings.get f) := by
  have hread := fieldValue_of_ofLayer hl f
  rw [fieldValue, Layer.aboveAll_of_some hg] at hread
  exact (Coercion.read_mergeAll_eq_ok_iff hf).mp hread

/-- The environment is read for a field that a file does not set. -/
theorem fieldValue_of_configLayer {file : String} {l : Loaded} {f : Field}
    (hl : ofLayer s ((configLayer s file).aboveAll layers) = .ok l) (hg : configLayer s file f = none) :
    fieldValue s (Layer.empty.aboveAll layers) f = .ok (l.settings.get f) ∧
      l.given f = (Layer.empty.aboveAll layers f).isSome := by
  have hover : (configLayer s file).aboveAll layers f = Layer.empty.aboveAll layers f := Layer.aboveAll_of_none hg
  have hread := fieldValue_of_ofLayer hl f
  rw [fieldValue, hover] at hread
  exact ⟨hread, by rw [given_of_ofLayer hl, hover]⟩

/-- Of several files the last one counts for which a field was given, by itself or by the environment. -/
theorem fromSources_of_last_given (hlayers : s.layers .usual = .ok layers) {before after : List String}
    {file : String} {load : String → Loaded} {f : Field}
    (hload : ∀ name ∈ before ++ file :: after, fromFile s (.ofText name) = .ok (load name))
    (hover : ∀ name ∈ before ++ file :: after, (load name).IsOver s layers)
    (hgiven : (load file).given f = true) (hafter : ∀ name ∈ after, (load name).given f = false) :
    ∃ l, fromSources s (before ++ file :: after) [] = (.ok l, []) ∧
      l.settings.get f = (load file).settings.get f := by
  have hgather := gather_of_loads hload .empty
  have hls : (before ++ file :: after).map load ≠ [] := by simp
  obtain ⟨l, hl⟩ := exists_build_gathered hlayers hls (List.forall_mem_map.mpr hover)
  refine ⟨l, ?_, ?_⟩
  · simp only [fromSources, hgather, hl]
    rfl
  · have hlast : gathered .empty ((before ++ file :: after).map load) f =
        some (f.type.give ((load file).settings.get f)) := by
      rw [List.map_append, List.map_cons]
      exact gathered_of_last hgiven (List.forall_mem_map.mpr hafter)
    simp only [build, hlayers] at hl
    have hfield := fieldValue_of_ofLayer hl f
    rw [(hover file (by simp)).fieldValue_give (Surroundings.isKeyed_of_layers hlayers) hlast] at hfield
    exact (Except.ok.inj hfield).symm

/-- Valid configuration files load together.  A field has the value that the last file to set it gives,
if that is the last file of all or the environment does not give the field; otherwise the files after it
bring the value of the environment back. -/
theorem fromSources_of_last_set {env : Layer} (henv : s.layer .usual = .ok env)
    {before after : List String} {file : String} {f : Field} {g : Given} (hf : f.type ≠ .names)
    (hvalid : ∀ name ∈ before ++ file :: after, IsValidFile s name)
    (hset : configLayer s file f = some g) (hunset : ∀ name ∈ after, configLayer s name f = none) :
    ∃ l, fromSources s (before ++ file :: after) [] = (.ok l, []) ∧
      Coercion.read s f.type (if after = [] then g else (env f).getD g) = .ok (l.settings.get f) := by
  obtain ⟨layers, hlayers, rfl⟩ := Surroundings.layers_of_layer henv
  have : Nonempty Loaded := ⟨⟨.default, fun _ => false⟩⟩
  choose! load hload using fun name hname => (hvalid name hname).loads
  have hlayer := fun name hname => ofLayer_of_fromFile hlayers (hvalid name hname) (hload name hname)
  have hover : ∀ name ∈ before ++ file :: after, (load name).IsOver s layers :=
    fun name hname => ⟨_, hlayer name hname⟩
  have hfile := hlayer file (by simp)
  have hgiven : (load file).given f = true := by
    rw [given_of_ofLayer hfile, Layer.isSome_aboveAll, hset]
    rfl
  have hread := read_of_configLayer hfile hf hset
  obtain rfl | ⟨middle, last, rfl⟩ := List.eq_nil_or_concat after
  · obtain ⟨l, hl, hvalue⟩ :=
      fromSources_of_last_given hlayers hload hover hgiven (List.forall_mem_nil _)
    exact ⟨l, hl, hvalue ▸ hread⟩
  · cases hw : Layer.empty.aboveAll layers f with
    | none =>
      -- The files after it are loaded without the field, so this one counts.
      have hsilent : ∀ name ∈ middle.concat last, (load name).given f = false := by
        intro name hname
        have hname' := List.mem_append_right before (List.mem_cons_of_mem file hname)
        rw [(fieldValue_of_configLayer (hlayer name hname') (hunset name hname)).2, hw]
        rfl
      obtain ⟨l, hl, hvalue⟩ := fromSources_of_last_given hlayers hload hover hgiven hsilent
      exact ⟨l, hl, by simpa [hvalue] using hread⟩
    | some w =>
      -- The last file of all is loaded with the value of the environment, and counts.
      have hsplit : before ++ file :: middle.concat last = (before ++ file :: middle) ++ [last] := by
        simp
      obtain ⟨hfield, hlast⟩ :=
        fieldValue_of_configLayer (hlayer last (by simp)) (hunset last (by simp))
      rw [hsplit] at hload hover ⊢
      have hback : (load last).given f = true := by
        rw [hlast, hw]
        rfl
      obtain ⟨l, hl, hvalue⟩ :=
        fromSources_of_last_given hlayers hload hover hback (List.forall_mem_nil _)
      refine ⟨l, hl, ?_⟩
      rw [if_neg (by simp), hvalue]
      simpa only [fieldValue, hw, Option.getD_some] using hfield

/-- Two configuration files, of which only the first names a track, and an environment that names
another. -/
def twoFiles : Surroundings where
  disk :=
    ⟨[(workDirectory, .directory), (homeDirectory, .directory),
      (["work", "a.json"], .file (Encoding.Utf8.encode "\x7b\"bgm_track\": \"file\"\x7d".toList)),
      (["work", "b.json"], .file (Encoding.Utf8.encode "\x7b\"debug\": true\x7d".toList))]⟩
  environment := [("VNSCRIPT_BGM_TRACK", "env")]

/-- The text that a layer gives for a field, if it gives one. -/
def givenText? (layer : Layer) (f : Field) : Option String :=
  match layer f with
  | some (.data (.text t)) => some t
  | _ => none

theorem eq_of_givenText? {layer : Layer} {f : Field} {t : String} (h : givenText? layer f = some t) :
    layer f = some (.data (.text t)) := by
  unfold givenText? at h
  split at h
  · next t' heq =>
    obtain rfl := Option.some.inj h
    exact heq
  · cases h

/-- The first file sets the track, and the second brings the track of the environment back. -/
theorem fromSources_of_last_set_twoFiles :
    givenText? (configLayer twoFiles "a.json") .bgmTrack = some "file" ∧
      ∃ l, fromSources twoFiles ["a.json", "b.json"] [] = (.ok l, []) ∧ l.settings.bgmTrack = "env" := by
  have hset : givenText? (configLayer twoFiles "a.json") .bgmTrack = some "file" := by decide +kernel
  have hunset : configLayer twoFiles "b.json" .bgmTrack = none := by
    rw [← Option.isNone_iff_eq_none]
    decide +kernel
  have hvalid : ∀ name ∈ [] ++ "a.json" :: ["b.json"], IsValidFile twoFiles name := by decide +kernel
  have henv : (twoFiles.layer .usual).toOption.bind (givenText? · .bgmTrack) = some "env" := by
    decide +kernel
  cases hlayer : twoFiles.layer .usual with
  | error e => simp [hlayer, Except.toOption] at henv
  | ok env =>
    have htrack : env .bgmTrack = some (.data (.text "env")) :=
      eq_of_givenText? (by simpa [hlayer, Except.toOption] using henv)
    obtain ⟨l, hl, hvalue⟩ := fromSources_of_last_set hlayer (f := .bgmTrack) (by decide) hvalid
      (eq_of_givenText? hset) (by simp [hunset])
    rw [if_neg (by decide), htrack] at hvalue
    exact ⟨hset, l, hl, (Except.ok.inj hvalue).symm⟩

end Loaded

end Daihon

import Daihon.Proofs.Settings.Files
import Daihon.Proofs.Settings.Overrides

/-!
# Variables of the environment and configuration files

A variable of the environment gives its field its text, over the files of variables
(`Loaded.fieldValue_of_variable`).  So each configuration file is loaded with it, unless it sets the field
itself, and of several files the last one counts alone: without configuration files the value is that of the
variable, and otherwise it is that of the last file, as far as it sets the field
(`Loaded.value_of_variable`).
-/

namespace Daihon

/-! ### Variables -/

/-- In an environment each variable is set once, and no other variable has the name `name` but for case. -/
structure IsSpelledOnce (environment : Table String) (name : String) : Prop where
  once : (Table.keys environment).Nodup
  spelled : ∀ key ∈ Table.keys environment, Text.lower key = Text.lower name → key = name

/-- The variable `name` of the environment has the text `text`, and this gives the field `f` the value `v`. -/
structure VariableGives (s : Surroundings) (name text : String) (f : Field) (v : f.type.Carrier) : Prop where
  spelled : IsSpelledOnce s.environment name
  get : Table.get? s.environment name = some text
  named : SourceOptions.usual.variableName f.name = Text.lower name
  notTable : f.type ≠ .names
  reads : Coercion.read s f.type (.data (.text text)) = .ok v

theorem VariableGives.variableFor {s : Surroundings} {name text : String} {f : Field} {v : f.type.Carrier}
    (h : VariableGives s name text f v) :
    variableFor .usual (s.environment.map fun (k, v) => (k, some v)) f = some text := by
  have hmem : (name, text) ∈ s.environment := Table.mem_of_get? h.get
  -- of the variables with the folded name there is only one
  have honly (e : String × Option String) (he : e ∈ s.environment.map fun (k, v) => (k, some v))
      (hfold : SourceOptions.usual.fold e.1 = SourceOptions.usual.variableName f.name) :
      e = (name, some text) := by
    obtain ⟨⟨key, value⟩, hkey, rfl⟩ := List.mem_map.mp he
    obtain rfl : key = name :=
      h.spelled.spelled key (List.mem_map_of_mem hkey) (hfold.trans h.named)
    have hvalue := (Table.get?_eq_some_iff h.spelled.once).mpr hkey
    obtain rfl := Option.some.inj (hvalue.symm.trans h.get)
    rfl
  have hfound : ((s.environment.map fun (k, v) => (k, some v)).reverse.find? fun e =>
      SourceOptions.usual.fold e.1 == SourceOptions.usual.variableName f.name).isSome := by
    rw [List.find?_isSome]
    refine ⟨(name, some text), List.mem_reverse.mpr (List.mem_map.mpr ⟨_, hmem, rfl⟩), ?_⟩
    exact beq_iff_eq.mpr h.named.symm
  obtain ⟨e, he⟩ := Option.isSome_iff_exists.mp hfound
  have hsame := List.find?_some he
  rw [beq_iff_eq] at hsame
  rw [Daihon.variableFor, he, honly e (List.mem_reverse.mp (List.mem_of_find?_eq_some he)) hsame]
  rfl

namespace Layer

variable {source : Source} {layer : Layer} {f : Field} {text : String}

theorem of_ofTexts {o : SourceOptions} {texts : Field → Option String} {g : Option Given}
    (h : ofTexts o source texts = .ok layer) (htext : texts f = some text)
    (hg : givenByText o source f text = .ok g) : layer f = g := by
  unfold ofTexts at h
  dsimp only at h
  split at h
  · cases h
  · obtain rfl := Except.ok.inj h
    simp [htext, hg, Except.toOption]

/-- The text of a variable is given as it stands for a field that is no table. -/
theorem of_variableFor {assigned : List (String × Option String)}
    (h : ofVariables .usual source assigned = .ok layer) (hf : f.type ≠ .names)
    (htext : variableFor .usual assigned f = some text) : layer f = some (.data (.text text)) := by
  have hall : (assigned.filter fun v => !(SourceOptions.usual.skipsEmpty && v.2 == some "")) = assigned :=
    List.filter_eq_self.mpr fun _ _ => rfl
  have hgiven : givenByText .usual source f text = .ok (some (.data (.text text))) := by
    unfold givenByText
    cases f <;> first | rfl | exact absurd rfl hf
  simp only [ofVariables, hall] at h
  cases htexts : ofTexts .usual source (variableFor .usual assigned) with
  | error e =>
    rw [htexts] at h
    cases h
  | ok texts =>
    rw [htexts] at h
    obtain rfl := Except.ok.inj h
    have hlayer := of_ofTexts htexts htext hgiven
    cases f <;> first | exact hlayer | exact absurd rfl hf

end Layer

namespace Loaded

variable {s : Surroundings} {layers : List Layer}

theorem fieldValue_of_variable (hlayers : s.layers .usual = .ok layers) {name text : String} {f : Field}
    {v : f.type.Carrier} (h : VariableGives s name text f v) :
    fieldValue s (Layer.empty.aboveAll layers) f = .ok v ∧ (Layer.empty.aboveAll layers f).isSome := by
  unfold Surroundings.layers at hlayers
  obtain ⟨assigned, -, hlayers⟩ := exists_of_bind_eq_ok hlayers
  obtain ⟨environment, henvironment, hlayers⟩ := exists_of_bind_eq_ok hlayers
  obtain ⟨variableFiles, -, hlayers⟩ := exists_of_bind_eq_ok hlayers
  obtain ⟨ownFiles, -, hlayers⟩ := exists_of_bind_eq_ok hlayers
  obtain rfl := Except.ok.inj hlayers
  have hgiven : environment f = some (.data (.text text)) :=
    Layer.of_variableFor henvironment h.notTable h.variableFor
  have hfirst : Layer.empty.above environment f = some (.data (.text text)) :=
    (Layer.above_of_none rfl).trans hgiven
  have hover : Layer.empty.aboveAll [environment, variableFiles, ownFiles] f =
      some (Layer.mergeAll (.data (.text text)) (Layer.valuesFor [variableFiles, ownFiles] f)) :=
    Layer.aboveAll_of_some hfirst
  rw [fieldValue, hover]
  exact ⟨(Coercion.read_mergeAll_eq_ok_iff h.notTable).mpr h.reads, rfl⟩

/-! ### Configuration files -/

/-- Files that are gathered are loaded each for itself, but for those that are reported as missing. -/
theorem gather_eq_ok {given layer : Layer} {files : List String} {notices : List Notice}
    (h : gather s given files = (.ok layer, notices)) :
    layer = gathered given (loadedAmong s files) ∧
      ∀ file ∈ files, (∃ l, fromFile s (.ofText file) = .ok l) ∨
        ∃ m, fromFile s (.ofText file) = .error (.missingFile m) := by
  induction files generalizing given notices with
  | nil => exact ⟨(Except.ok.inj (Prod.mk.inj h).1).symm, nofun⟩
  | cons file files ih =>
    unfold gather at h
    split at h
    · next l hl =>
      obtain ⟨hlayer, hfiles⟩ := ih h
      rw [loadedAmong_of_fromFile hl, gathered_cons]
      exact ⟨hlayer, List.forall_mem_cons.mpr ⟨.inl ⟨l, hl⟩, hfiles⟩⟩
    · next m hm =>
      obtain ⟨hlayer, hfiles⟩ := ih (Prod.ext (Prod.mk.inj h).1 rfl)
      have hnone : loadedAmong s (file :: files) = loadedAmong s files := by
        simp [loadedAmong, hm, Except.toOption]
      rw [hnone]
      exact ⟨hlayer, List.forall_mem_cons.mpr ⟨.inr ⟨m, hm⟩, hfiles⟩⟩
    · cases h

/-- A file about fields only that has been gathered has been loaded. -/
theorem exists_fromFile_of_gather {given layer : Layer} {files : List String} {notices : List Notice}
    (h : gather s given files = (.ok layer, notices)) (hlayers : s.layers .usual = .ok layers) {file : String}
    (hfile : file ∈ files) {data : Table Value} (hdata : configData s (.ofText file) = .ok data)
    (hsilent : SourceOptions.IsSilent data) : ∃ l, fromFile s (.ofText file) = .ok l := by
  obtain hloads | ⟨m, hm⟩ := (gather_eq_ok h).2 file hfile
  · exact hloads
  · simp only [fromFile, hdata, ofTable, SourceOptions.ofTable_of_isSilent hsilent, build, hlayers] at hm
    obtain hm | ⟨text, ps, hm⟩ := eq_noHome_or_refused_of_ofLayer hm <;> cases hm

/-- A field that the environment gives has the value with which the last of all files is loaded. -/
theorem get_of_last_file (hlayers : s.layers .usual = .ok layers) {f : Field}
    (hsome : (Layer.empty.aboveAll layers f).isSome) {ls : List Loaded} {last l : Loaded}
    (hlast : last.IsOver s layers)
    (hl : ofLayer s ((gathered .empty (ls ++ [last])).aboveAll layers) = .ok l) :
    l.settings.get f = last.settings.get f := by
  have hgiven : gathered .empty (ls ++ [last]) f = some (f.type.give (last.settings.get f)) :=
    gathered_of_last (hlast.given_of_isSome hsome) (List.forall_mem_nil _)
  have hread := fieldValue_of_ofLayer hl f
  rw [hlast.fieldValue_give (Surroundings.isKeyed_of_layers hlayers) hgiven] at hread
  exact (Except.ok.inj hread).symm

/-- **A variable counts below the last configuration file.**  Without files the value of a field is that of
its variable; otherwise it is that of the last file if this sets the field, and that of the variable if it
does not. -/
theorem value_of_variable {name text : String} {f : Field} {v : f.type.Carrier}
    (hgives : VariableGives s name text f v) {files : List String} {l : Loaded}
    (h : (fromSources s files []).1 = .ok l) :
    (files = [] → l.settings.get f = v) ∧
      ∀ earlier last data, files = earlier ++ [last] → configData s (.ofText last) = .ok data →
        SourceOptions.IsSilent data →
          match Layer.ofTable .usual data f with
          | none => l.settings.get f = v
          | some g => Coercion.read s f.type g = .ok (l.settings.get f) := by
  obtain ⟨given, notices, layers, hgather, hlayers, hl⟩ := exists_of_fromSources h
  obtain ⟨hvalue, hsome⟩ := fieldValue_of_variable hlayers hgives
  obtain ⟨rfl, -⟩ := gather_eq_ok hgather
  constructor
  · rintro rfl
    have hread := fieldValue_of_ofLayer hl f
    exact (Except.ok.inj (hvalue.symm.trans hread)).symm
  · rintro earlier last data rfl hdata hsilent
    obtain ⟨m, hm⟩ := exists_fromFile_of_gather hgather hlayers (by simp) hdata hsilent
    have hvalid : IsValidFile s last :=
      ⟨fun data' hdata' => Except.ok.inj (hdata.symm.trans hdata') ▸ hsilent, m, hm⟩
    have hlayer := ofLayer_of_fromFile hlayers hvalid hm
    have hsplit : loadedAmong s (earlier ++ [last]) = loadedAmong s earlier ++ [m] := by
      rw [loadedAmong_append, loadedAmong_of_fromFile hm]
      rfl
    rw [hsplit] at hl
    rw [get_of_last_file hlayers hsome ⟨_, hlayer⟩ hl]
    have hconfig : configLayer s last = .ofTable .usual data := by simp only [configLayer, hdata]
    cases hset : Layer.ofTable .usual data f with
    | none =>
      obtain ⟨hread, -⟩ := fieldValue_of_configLayer hlayer (hconfig ▸ hset)
      exact Except.ok.inj (hread.symm.trans hvalue)
    | some g => exact read_of_configLayer hlayer hgives.notTable (hconfig ▸ hset)

end Loaded

end Daihon

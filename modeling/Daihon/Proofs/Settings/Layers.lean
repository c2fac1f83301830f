import Daihon.Proofs.Settings.Readings

/-!
# Layers of settings

Settings come about from a layer exactly when every field is read (`Loaded.ofLayer_eq_ok_iff`).  What a layer
over others gives for a field is its own value over theirs (`Layer.aboveAll_of_some`), and where it gives none it is
what they give together (`Layer.aboveAll_of_none`).

The tables that the environment and the files of variables give are keyed by texts
(`Surroundings.isKeyed_of_layers`).  Without variables of settings and without a file `.env` they give
nothing (`Loaded.build_of_isSilent`).
-/

namespace Daihon

/-! ### What the caller says about the other sources -/

namespace SourceOptions

/-- Whether a table says nothing about the sources of settings: none of its keys starts with an
underscore. -/
def IsSilent (t : Table Value) : Prop :=
  ∀ key ∈ Table.keys t, key.toList.head? ≠ some '_'

instance : DecidablePred IsSilent := fun t =>
  List.decidableBAll (fun key : String => key.toList.head? ≠ some '_') (Table.keys t)

theorem get?_of_isSilent {t : Table Value} (h : IsSilent t) {name : String}
    (hname : name.toList.head? = some '_') : Table.get? t name = none := by
  rw [Table.get?, Option.map_eq_none_iff, List.find?_eq_none]
  intro e he hkey
  rw [beq_iff_eq] at hkey
  exact h e.1 (List.mem_map_of_mem he) (hkey ▸ hname)

/-- Without options the sources are read as usual. -/
theorem ofTable_of_isSilent {platform : Platform} {t : Table Value} (h : IsSilent t) :
    ofTable platform t = .ok .usual := by
  simp (disch := decide) only [ofTable, textSaid, filesSaid, encodingSaid, directoriesSaid, flagSaid,
    said?, get?_of_isSilent h]
  rfl

end SourceOptions

/-! ### Building from a layer -/

namespace Loaded

variable {s : Surroundings} {layer : Layer}

theorem failure?_eq_none_iff {f : Field} :
    failure? s layer f = none ↔ ∀ e, fieldValue s layer f ≠ .error (.failed e) := by
  unfold failure?
  split
  · next e h => simp [h]
  · next h => simpa using fun e he => h e he

theorem fieldValue_hasReason (s : Surroundings) (layer : Layer) (f : Field) :
    (fieldValue s layer f).HasReason := by
  unfold fieldValue
  split
  · nofun
  · exact Coercion.read_hasReason s _ _

theorem problems_eq_nil_iff {f : Field} :
    problems s layer f = [] ↔ ∀ ps, fieldValue s layer f ≠ .error (.refused ps) := by
  unfold problems
  split
  · next ps h =>
    have hreason := fieldValue_hasReason s layer f
    rw [h] at hreason
    constructor
    · intro hps
      obtain rfl := List.map_eq_nil_iff.mp hps
      exact absurd rfl hreason
    · exact fun hps => absurd h (hps ps)
  · next h => simpa using fun ps hps => h ps hps

theorem exists_fieldValue_iff {f : Field} :
    (∃ a, fieldValue s layer f = .ok a) ↔ failure? s layer f = none ∧ problems s layer f = [] := by
  rw [failure?_eq_none_iff, problems_eq_nil_iff]
  cases h : fieldValue s layer f with
  | ok a => simp
  | error e => cases e <;> simp

/-- Settings come about from a layer exactly if every field is read, and they hold what is read. -/
theorem ofLayer_eq_ok_iff {l : Loaded} :
    ofLayer s layer = .ok l ↔
      (∀ f, fieldValue s layer f = .ok (l.settings.get f)) ∧ l.given = fun f => (layer f).isSome := by
  constructor
  · intro h
    unfold ofLayer at h
    split at h
    · cases h
    · next hfailures =>
      split at h
      · next hproblems =>
        obtain rfl := Except.ok.inj h
        refine ⟨fun f => ?_, rfl⟩
        have hfailure := List.findSome?_eq_none_iff.mp hfailures f f.mem_all
        have hproblem := List.flatMap_eq_nil_iff.mp hproblems f f.mem_all
        obtain ⟨a, ha⟩ := exists_fieldValue_iff.mpr ⟨hfailure, hproblem⟩
        simp [ha, Except.toOption]
      · cases h
  · rintro ⟨hread, hgiven⟩
    have hnone := fun f => exists_fieldValue_iff.mp ⟨_, hread f⟩
    have hfailures : Field.all.findSome? (failure? s layer) = none :=
      List.findSome?_eq_none_iff.mpr fun f _ => (hnone f).1
    have hproblems : Field.all.flatMap (problems s layer) = [] :=
      List.flatMap_eq_nil_iff.mpr fun f _ => (hnone f).2
    simp only [ofLayer, hfailures, hproblems, hread, Except.toOption, Option.getD_some,
      Settings.ofFields_get, ← hgiven]

theorem fieldValue_of_ofLayer {l : Loaded} (h : ofLayer s layer = .ok l) (f : Field) :
    fieldValue s layer f = .ok (l.settings.get f) :=
  (ofLayer_eq_ok_iff.mp h).1 f

theorem given_of_ofLayer {l : Loaded} (h : ofLayer s layer = .ok l) (f : Field) :
    l.given f = (layer f).isSome :=
  congrFun (ofLayer_eq_ok_iff.mp h).2 f

theorem exists_ofLayer (h : ∀ f, ∃ a, fieldValue s layer f = .ok a) : ∃ l, ofLayer s layer = .ok l := by
  choose value hvalue using h
  refine ⟨⟨.ofFields value, fun f => (layer f).isSome⟩, ofLayer_eq_ok_iff.mpr ⟨fun f => ?_, rfl⟩⟩
  rw [Settings.get_ofFields]
  exact hvalue f

/-- No settings come about if a home directory is not known or a value is refused, and for no other
reason. -/
theorem eq_noHome_or_refused_of_ofLayer {e : Failure} (h : ofLayer s layer = .error e) :
    e = .noHome ∨ ∃ text ps, e = @Failure.refused text ps := by
  unfold ofLayer at h
  split at h
  · next e' hfailure =>
    obtain rfl := Except.error.inj h
    obtain ⟨f, -, hf⟩ := List.exists_of_findSome?_eq_some hfailure
    unfold failure? at hf
    split at hf
    · next hread =>
      obtain rfl := Option.some.inj hf
      unfold fieldValue at hread
      split at hread
      · cases hread
      · exact .inl (Coercion.eq_noHome_of_read hread)
    · cases hf
  · split at h
    · cases h
    · exact .inr ⟨_, _, (Except.error.inj h).symm⟩

end Loaded

/-! ### Tables from the environment -/

/-- A row of steps gives a result only if its first step does. -/
theorem exists_of_bind_eq_ok {ε α β : Type} {r : Except ε α} {next : α → Except ε β} {b : β}
    (h : r >>= next = .ok b) : ∃ a, r = .ok a ∧ next a = .ok b := by
  cases r with
  | error e => cases h
  | ok a => exact ⟨a, rfl, h⟩

/-- Whether the tables that a layer gives are keyed by texts. -/
def Layer.IsKeyed (layer : Layer) : Prop :=
  ∀ f g, layer f = some g → g.value.IsKeyed

namespace Layer

theorem above_of_some {strong weak : Layer} {f : Field} {g : Given} (h : strong f = some g) :
    strong.above weak f = some (mergeAll g (weak f).toList) := by
  cases hw : weak f <;> simp [above, h, hw, mergeAll]

theorem above_of_none {strong weak : Layer} {f : Field} (h : strong f = none) :
    strong.above weak f = weak f := by
  simp [above, h]

/-- The values that layers give for a field, in order. -/
def valuesFor (layers : List Layer) (f : Field) : List Given :=
  layers.filterMap fun layer => layer f

theorem IsKeyed.of_mem_valuesFor {layers : List Layer} (h : ∀ layer ∈ layers, layer.IsKeyed) {f : Field} :
    ∀ g ∈ valuesFor layers f, g.value.IsKeyed := by
  intro g hg
  obtain ⟨layer, hlayer, hf⟩ := List.mem_filterMap.mp hg
  exact h layer hlayer f g hf

/-- What a layer gives for a field is put over the values of all weaker layers. -/
theorem aboveAll_of_some {strong : Layer} {weak : List Layer} {f : Field} {g : Given} (h : strong f = some g) :
    strong.aboveAll weak f = some (mergeAll g (valuesFor weak f)) := by
  induction weak generalizing strong g with
  | nil => exact h
  | cons w weak ih =>
    rw [aboveAll, List.foldl_cons]
    refine (ih (above_of_some h)).trans ?_
    cases hw : w f <;> simp [valuesFor, mergeAll, hw]

theorem aboveAll_of_none {strong : Layer} {weak : List Layer} {f : Field} (h : strong f = none) :
    strong.aboveAll weak f = empty.aboveAll weak f := by
  induction weak generalizing strong with
  | nil => exact h
  | cons w weak ih =>
    have hempty : empty.above w f = w f := above_of_none rfl
    have hstrong : strong.above w f = w f := above_of_none h
    rw [aboveAll, aboveAll, List.foldl_cons, List.foldl_cons]
    cases hw : w f with
    | none => exact (ih (hstrong.trans hw)).trans (ih (hempty.trans hw)).symm
    | some g => exact (aboveAll_of_some (hstrong.trans hw)).trans (aboveAll_of_some (hempty.trans hw)).symm

/-- What the weaker layers give alone is the strongest of their values, put over the others. -/
theorem aboveAll_empty (weak : List Layer) (f : Field) :
    (valuesFor weak f = [] ∧ empty.aboveAll weak f = none) ∨
      ∃ g rest, valuesFor weak f = g :: rest ∧ empty.aboveAll weak f = some (mergeAll g rest) := by
  induction weak with
  | nil => exact .inl ⟨rfl, rfl⟩
  | cons w weak ih =>
    have hempty : empty.above w f = w f := above_of_none rfl
    rw [aboveAll, List.foldl_cons]
    cases hw : w f with
    | none =>
      have hrest : (empty.above w).aboveAll weak f = empty.aboveAll weak f := aboveAll_of_none (hempty.trans hw)
      have hvalues : valuesFor (w :: weak) f = valuesFor weak f := by simp [valuesFor, hw]
      rw [hvalues]
      exact ih.imp (fun h => ⟨h.1, hrest.trans h.2⟩) fun ⟨g, rest, h⟩ => ⟨g, rest, h.1, hrest.trans h.2⟩
    | some g =>
      have hvalues : valuesFor (w :: weak) f = g :: valuesFor weak f := by simp [valuesFor, hw]
      exact .inr ⟨g, _, hvalues, aboveAll_of_some (hempty.trans hw)⟩

theorem isSome_aboveAll (strong : Layer) (weak : List Layer) (f : Field) :
    (strong.aboveAll weak f).isSome = ((strong f).isSome || (empty.aboveAll weak f).isSome) := by
  cases h : strong f with
  | none => rw [aboveAll_of_none h, Option.isSome_none, Bool.false_or]
  | some g => rw [aboveAll_of_some h, Option.isSome_some, Option.isSome_some, Bool.true_or]

theorem isKeyed_of_givenByText {o : SourceOptions} {source : Source} {f : Field} {text : String}
    {g : Given} (h : givenByText o source f text = .ok (some g)) : g.value.IsKeyed := by
  unfold givenByText at h
  split at h
  · cases h
    trivial
  · split at h
    · split at h
      · cases h
      · cases h
      · next v hv =>
        cases h
        exact Json.isKeyed_of_parse hv
    · cases h
      trivial

theorem isKeyed_of_ofTexts {o : SourceOptions} {source : Source} {texts : Field → Option String}
    {layer : Layer} (h : ofTexts o source texts = .ok layer) : layer.IsKeyed := by
  unfold ofTexts at h
  dsimp only at h
  split at h
  · cases h
  · obtain rfl := Except.ok.inj h
    intro f g hg
    cases htexts : texts f with
    | none => simp [htexts, Except.toOption] at hg
    | some text =>
      cases hgiven : givenByText o source f text with
      | error e => simp [htexts, hgiven, Except.toOption] at hg
      | ok g' =>
        obtain rfl : g' = some g := by simpa [htexts, hgiven, Except.toOption] using hg
        exact isKeyed_of_givenByText hgiven

/-- Without variables for single entries, variables give what their texts give, or nothing. -/
theorem isKeyed_of_ofVariables {source : Source} {assigned : List (String × Option String)}
    {layer : Layer} (h : ofVariables .usual source assigned = .ok layer) : layer.IsKeyed := by
  unfold ofVariables at h
  dsimp only at h
  cases htexts : ofTexts .usual source (variableFor .usual (assigned.filter fun v =>
      !(SourceOptions.usual.skipsEmpty && v.2 == some ""))) with
  | error e =>
    rw [htexts] at h
    cases h
  | ok texts =>
    rw [htexts] at h
    obtain rfl := Except.ok.inj h
    intro f g hg
    refine isKeyed_of_ofTexts htexts f g ?_
    dsimp only at hg
    split at hg
    · cases hg
    · exact hg
    · exact hg

end Layer

namespace Surroundings

theorem ownFileLayer_usual (s : Surroundings) : s.ownFileLayer .usual = .ok .empty := by
  rfl

variable {s : Surroundings}

/-- What all sources but the caller give together. -/
def layer (s : Surroundings) (o : SourceOptions) : Except Failure Layer :=
  (s.layers o).map Layer.empty.aboveAll

theorem layers_of_layer {o : SourceOptions} {layer : Layer} (h : s.layer o = .ok layer) :
    ∃ layers, s.layers o = .ok layers ∧ Layer.empty.aboveAll layers = layer := by
  unfold Surroundings.layer at h
  cases hlayers : s.layers o with
  | error e =>
    rw [hlayers] at h
    cases h
  | ok layers =>
    rw [hlayers] at h
    exact ⟨layers, rfl, Except.ok.inj h⟩

theorem isKeyed_of_layers {layers : List Layer} (h : s.layers .usual = .ok layers) :
    ∀ layer ∈ layers, layer.IsKeyed := by
  unfold Surroundings.layers at h
  obtain ⟨assigned, -, h⟩ := exists_of_bind_eq_ok h
  obtain ⟨environment, henvironment, h⟩ := exists_of_bind_eq_ok h
  obtain ⟨variableFiles, hvariableFiles, h⟩ := exists_of_bind_eq_ok h
  rw [ownFileLayer_usual] at h
  obtain rfl := Except.ok.inj h
  have hnone : Layer.empty.IsKeyed := fun f g hg => nomatch hg
  simp only [List.forall_mem_cons]
  exact ⟨Layer.isKeyed_of_ofVariables henvironment, Layer.isKeyed_of_ofVariables hvariableFiles, hnone,
    List.forall_mem_nil _⟩

/-! ### Surroundings that give nothing -/

/-- Whether nothing around gives a setting: no variable of the environment has a name that starts like
those of settings, in any case, and there is no file `.env`. -/
structure IsSilent (s : Surroundings) : Prop where
  environment : ∀ v ∈ s.environment, ¬"vnscript_".toList <+: (Text.lower v.1).toList
  variableFile : s.isFile (.ofText ".env") = false

theorem start_isPrefix_variableName (name : String) :
    "vnscript_".toList <+: (SourceOptions.usual.variableName name).toList := by
  have hstart : SourceOptions.usual.start.toList.flatMap Text.lowerChar = "vnscript_".toList := by decide
  have hname : (SourceOptions.usual.variableName name).toList =
      "vnscript_".toList ++ name.toList.flatMap Text.lowerChar := by
    rw [← hstart, ← List.flatMap_append, ← String.toList_append]
    exact String.toList_ofList
  rw [hname]
  exact List.prefix_append _ _

theorem variableFor_of_forall {assigned : List (String × Option String)}
    (h : ∀ v ∈ assigned, ¬"vnscript_".toList <+: (Text.lower v.1).toList) (f : Field) :
    variableFor .usual assigned f = none := by
  have hfind : assigned.reverse.find? (fun v =>
      SourceOptions.usual.fold v.1 == SourceOptions.usual.variableName f.name) = none := by
    refine List.find?_eq_none.mpr fun v hv hname => h v (List.mem_reverse.mp hv) ?_
    have hfold : Text.lower v.1 = SourceOptions.usual.variableName f.name := eq_of_beq hname
    exact hfold ▸ start_isPrefix_variableName f.name
  rw [variableFor, hfind]
  rfl

theorem ofVariables_eq_empty {source : Source} {assigned : List (String × Option String)}
    (h : ∀ v ∈ assigned, ¬"vnscript_".toList <+: (Text.lower v.1).toList) :
    Layer.ofVariables .usual source assigned = .ok .empty := by
  have hnone : ∀ p : String × Option String → Bool,
      variableFor .usual (assigned.filter p) = fun _ => none := fun p =>
    funext (variableFor_of_forall fun v hv => h v (List.mem_of_mem_filter hv))
  have htexts : Layer.ofTexts .usual source (fun _ => none) = .ok .empty := rfl
  simp only [Layer.ofVariables, hnone, htexts, Except.map]
  congr 1
  funext f
  cases f <;> rfl

/-- The path of the file of variables is short enough to be looked up. -/
theorem homePath_variableFile (s : Surroundings) : s.homePath ".env" = .ok (.ofText ".env") := by
  have hplace : s.place (.ofText ".env") ≠ .error .longName := by
    have hpath : s.place (.ofText ".env") = s.disk.place [] ["work", ".env"] := rfl
    have hwork : ¬Disk.nameLimit < "work".utf8ByteSize := by decide
    have hname : ¬Disk.nameLimit < ".env".utf8ByteSize := by decide
    rw [hpath]
    simp only [Disk.place, hwork, hname, if_false]
    repeat' split
    all_goals nofun
  have hhome : s.expandHome (.ofText ".env") = .ok (.ofText ".env") := rfl
  have hlook : s.lookFor (.ofText ".env") = .ok (s.find? (.ofText ".env")) := by
    unfold lookFor
    split
    · next hlong => exact absurd hlong hplace
    · rfl
  simp only [homePath, hhome, hlook]

theorem fileVariables_of_isSilent (h : s.IsSilent) : s.fileVariables .usual ".env" = .ok [] := by
  have hfile := h.variableFile
  simp only [fileVariables, homePath_variableFile, bind, Except.bind]
  split
  · next hfind => simp [isFile, hfind] at hfile
  · rfl

/-- Silent surroundings give nothing for any field. -/
theorem layers_of_isSilent (h : s.IsSilent) : s.layers .usual = .ok [.empty, .empty, .empty] := by
  have henvironment : s.environmentLayer .usual = .ok .empty := by
    refine ofVariables_eq_empty fun v hv => ?_
    obtain ⟨w, hw, rfl⟩ := List.mem_map.mp hv
    exact h.environment w hw
  have hfiles : SourceOptions.usual.files.mapM (s.fileVariables .usual) = .ok [[]] := by
    have husual : SourceOptions.usual.files = [".env"] := rfl
    rw [husual, List.mapM_cons, fileVariables_of_isSilent h]
    rfl
  have hvariables : Layer.ofVariables .usual .variableFile [] = .ok .empty :=
    ofVariables_eq_empty (List.forall_mem_nil _)
  simp only [layers, hfiles, henvironment, ownFileLayer_usual, bind, Except.bind, List.flatten_cons,
    List.flatten_nil, List.append_nil, hvariables]
  rfl

end Surroundings

/-- In silent surroundings the caller counts alone. -/
theorem Loaded.build_of_isSilent {s : Surroundings} (h : s.IsSilent) (caller : Layer) :
    build s .usual caller = ofLayer s caller := by
  have hover : caller.aboveAll [.empty, .empty, .empty] = caller := by
    funext f
    cases hf : caller f with
    | none => rw [Layer.aboveAll_of_none hf]; rfl
    | some g => rw [Layer.aboveAll_of_some hf]; rfl
  simp only [build, Surroundings.layers_of_isSilent h, hover]

end Daihon

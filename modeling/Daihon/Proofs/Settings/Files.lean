import Daihon.Proofs.Settings.Precedence

/-!
# Lists of configuration files

In surroundings that give no settings, each file of a list is loaded for itself, and what it sets is put
over what the files before it set.  A file that is there and does not load ends the loading with its
error, whatever comes after it; a path that leads to nothing is reported and passed over.  Otherwise
settings come about, in which the last file to set a field decides its value (`Loaded.fromSources_files`).

Putting the files together never fails, since what was read of a file is read as itself again
(`Loaded.exists_build_of_isSilent`).
-/

namespace Daihon

/-! ### Files that are not there -/

theorem DataFormat.parse_ne_missingFile (platform : Platform) (format : DataFormat) (text : List Char)
    (m : String) : format.parse platform text ≠ .error (.missingFile m) := by
  unfold DataFormat.parse
  split
  · nofun
  · split <;> nofun

theorem checkKeysFrom_ne_missingFile (v : Value) (keys : List (String × String)) (m : String) :
    checkKeysFrom v keys ≠ .error (.missingFile m) := by
  induction keys with
  | nil => nofun
  | cons key keys ih =>
    unfold checkKeysFrom
    split
    · nofun
    · exact ih
    · split <;> nofun

theorem readData_ne_missingFile (platform : Platform) (format : DataFormat) (path : Path) (entry : Entry)
    (m : String) : readData platform format path entry ≠ .error (.missingFile m) := by
  unfold readData
  split
  · nofun
  split
  · nofun
  split
  · next e hparse =>
    rintro ⟨⟩
    exact DataFormat.parse_ne_missingFile _ _ _ m hparse
  split
  · next e hkeys =>
    rintro ⟨⟩
    exact checkKeysFrom_ne_missingFile _ _ m hkeys
  split <;> nofun

/-- Whether a path leads to nothing. -/
def Surroundings.isMissing (s : Surroundings) (file : String) : Bool :=
  match s.lookFor (.ofText file) with
  | .ok none => true
  | _ => false

namespace Loaded

variable {s : Surroundings} {file : String} {f : Field}

theorem configData_of_isMissing (h : s.isMissing file = true) :
    configData s (.ofText file) =
      .error (.missingFile ("Configuration file not found: " ++ (Path.ofText file).text)) := by
  unfold Surroundings.isMissing at h
  split at h
  · next hlook => simp only [configData, hlook]
  · cases h

theorem fromFile_of_isMissing (h : s.isMissing file = true) :
    fromFile s (.ofText file) =
      .error (.missingFile ("Configuration file not found: " ++ (Path.ofText file).text)) := by
  simp only [fromFile, configData_of_isMissing h]

theorem configLayer_of_isMissing (h : s.isMissing file = true) : configLayer s file = .empty := by
  simp only [configLayer, configData_of_isMissing h]

theorem isMissing_of_configData {m : String}
    (h : configData s (.ofText file) = .error (.missingFile m)) : s.isMissing file = true := by
  unfold configData at h
  split at h
  · cases h
  · next hlook => simp [Surroundings.isMissing, hlook]
  · dsimp only at h
    split at h
    · cases h
    · exact absurd h (readData_ne_missingFile _ _ _ _ m)

/-- Whether what a file says is about fields only, and not about the other sources. -/
def IsPlainFile (s : Surroundings) (file : String) : Prop :=
  ∀ data, configData s (.ofText file) = .ok data → SourceOptions.IsSilent data

/-- A file is reported as missing only if nothing is there. -/
theorem isMissing_of_fromFile (hs : s.IsSilent) (hfile : IsPlainFile s file) {m : String}
    (h : fromFile s (.ofText file) = .error (.missingFile m)) : s.isMissing file = true := by
  unfold fromFile at h
  cases hdata : configData s (.ofText file) with
  | error e =>
    rw [hdata] at h
    obtain rfl := Except.error.inj h
    exact isMissing_of_configData hdata
  | ok data =>
    simp only [hdata, ofTable, SourceOptions.ofTable_of_isSilent (hfile data hdata),
      build_of_isSilent hs] at h
    obtain h | ⟨text, ps, h⟩ := eq_noHome_or_refused_of_ofLayer h <;> cases h

/-! ### Gathering -/

/-- The settings of those files that load, each for itself. -/
def loadedAmong (s : Surroundings) (files : List String) : List Loaded :=
  files.filterMap fun file => (fromFile s (.ofText file)).toOption

/-- The notices for the paths that lead to nothing, in order. -/
def missingNotices (s : Surroundings) (files : List String) : List Notice :=
  (files.filter s.isMissing).map .configMissing

/-- Whether a file does not stop the loading: nothing is there, or it loads. -/
def Passes (s : Surroundings) (file : String) : Prop :=
  s.isMissing file = true ∨ ∃ l, fromFile s (.ofText file) = .ok l

theorem isMissing_of_fromFile_eq_ok {l : Loaded} (h : fromFile s (.ofText file) = .ok l) :
    s.isMissing file = false := by
  by_contra hmissing
  rw [fromFile_of_isMissing (by simpa using hmissing)] at h
  cases h

theorem loadedAmong_of_isMissing (h : s.isMissing file = true) (files : List String) :
    loadedAmong s (file :: files) = loadedAmong s files := by
  simp [loadedAmong, fromFile_of_isMissing h, Except.toOption]

theorem loadedAmong_of_fromFile {l : Loaded} (h : fromFile s (.ofText file) = .ok l)
    (files : List String) : loadedAmong s (file :: files) = l :: loadedAmong s files := by
  simp [loadedAmong, h, Except.toOption]

theorem missingNotices_of_isMissing (h : s.isMissing file = true) (files : List String) :
    missingNotices s (file :: files) = .configMissing file :: missingNotices s files := by
  simp [missingNotices, h]

theorem missingNotices_of_fromFile {l : Loaded} (h : fromFile s (.ofText file) = .ok l)
    (files : List String) : missingNotices s (file :: files) = missingNotices s files := by
  simp [missingNotices, isMissing_of_fromFile_eq_ok h]

theorem gather_of_isMissing (h : s.isMissing file = true) (given : Layer) (files : List String) :
    gather s given (file :: files) =
      ((gather s given files).1, .configMissing file :: (gather s given files).2) := by
  simp only [gather, fromFile_of_isMissing h]

theorem gather_of_fromFile {l : Loaded} (h : fromFile s (.ofText file) = .ok l) (given : Layer)
    (files : List String) :
    gather s given (file :: files) = gather s (given.update l.giveSet) files := by
  simp only [gather, h]

theorem not_passes_iff :
    ¬Passes s file ↔ s.isMissing file = false ∧ ∃ e, fromFile s (.ofText file) = .error e := by
  unfold Passes
  cases fromFile s (.ofText file) <;> simp

/-- Files that do not stop the loading are gathered one after another. -/
theorem gather_append {before : List String} (h : ∀ file ∈ before, Passes s file) (given : Layer)
    (rest : List String) :
    gather s given (before ++ rest) =
      ((gather s (gathered given (loadedAmong s before)) rest).1,
        missingNotices s before ++ (gather s (gathered given (loadedAmong s before)) rest).2) := by
  induction before generalizing given with
  | nil => rfl
  | cons file before ih =>
    obtain ⟨hfile, hbefore⟩ := List.forall_mem_cons.mp h
    rw [List.cons_append]
    obtain hmissing | ⟨l, hl⟩ := hfile
    · rw [gather_of_isMissing hmissing, ih hbefore, loadedAmong_of_isMissing hmissing,
        missingNotices_of_isMissing hmissing, List.cons_append]
    · rw [gather_of_fromFile hl, ih hbefore, loadedAmong_of_fromFile hl, gathered_cons,
        missingNotices_of_fromFile hl]

/-- Either no file of a list stops the loading, or one is the first to stop it. -/
theorem exists_first_not_passes (files : List String) :
    (∀ file ∈ files, Passes s file) ∨
      ∃ before file after, files = before ++ file :: after ∧ (∀ name ∈ before, Passes s name) ∧
        ¬Passes s file := by
  induction files with
  | nil => exact .inl (List.forall_mem_nil _)
  | cons file files ih =>
    by_cases hfile : Passes s file
    · obtain hall | ⟨before, bad, after, rfl, hbefore, hbad⟩ := ih
      · exact .inl (List.forall_mem_cons.mpr ⟨hfile, hall⟩)
      · exact .inr ⟨file :: before, bad, after, rfl, List.forall_mem_cons.mpr ⟨hfile, hbefore⟩, hbad⟩
    · exact .inr ⟨[], file, files, rfl, List.forall_mem_nil _, hfile⟩

/-- A file that stops the loading decides the error. -/
theorem gather_of_not_passes (hs : s.IsSilent) (hfile : IsPlainFile s file) (hbad : ¬Passes s file)
    {e : Failure} (he : fromFile s (.ofText file) = .error e) (given : Layer) (after : List String) :
    gather s given (file :: after) = (.error e, []) := by
  unfold gather
  split
  · next hl => exact absurd (.inr ⟨_, hl⟩) hbad
  · next hm => exact absurd (.inl (isMissing_of_fromFile hs hfile hm)) hbad
  · next e' _ he' =>
    obtain rfl := Except.error.inj (he.symm.trans he')
    rfl

/-- Paths that lead to nothing add nothing to what is gathered. -/
theorem gather_filter (hs : s.IsSilent) {files : List String} (hfiles : ∀ file ∈ files, IsPlainFile s file)
    (given : Layer) :
    (gather s given (files.filter fun file => !s.isMissing file)).1 = (gather s given files).1 := by
  induction files generalizing given with
  | nil => rfl
  | cons file files ih =>
    obtain ⟨hfile, hfiles⟩ := List.forall_mem_cons.mp hfiles
    cases hmissing : s.isMissing file with
    | true => rw [List.filter_cons_of_neg (by simp [hmissing]), gather_of_isMissing hmissing, ih hfiles]
    | false =>
      rw [List.filter_cons_of_pos (by simp [hmissing])]
      cases hl : fromFile s (.ofText file) with
      | ok l => rw [gather_of_fromFile hl, gather_of_fromFile hl, ih hfiles]
      | error e =>
        have hbad : ¬Passes s file := not_passes_iff.mpr ⟨hmissing, e, hl⟩
        rw [gather_of_not_passes hs hfile hbad hl, gather_of_not_passes hs hfile hbad hl]

/-! ### Putting the files together -/

theorem fieldValue_gathered_of_forall {ls : List Loaded} (h : ∀ m ∈ ls, m.given f = false) :
    fieldValue s (gathered .empty ls) f = .ok (Settings.default.get f) := by
  have hlayer : gathered .empty ls f = none := gathered_of_forall h
  rw [fieldValue, hlayer]

/-- What was read of the last file to set a field is read as itself again. -/
theorem fieldValue_gathered_of_last {before after : List Loaded} {m : Loaded} {layer : Layer}
    (hm : ofLayer s layer = .ok m) (hgiven : m.given f = true)
    (hafter : ∀ m' ∈ after, m'.given f = false) :
    fieldValue s (gathered .empty (before ++ m :: after)) f = .ok (m.settings.get f) := by
  obtain ⟨hread, hlayer⟩ := ofLayer_eq_ok_iff.mp hm
  have hsome : (layer f).isSome = true := by
    rw [← hgiven, hlayer]
  obtain ⟨g, hg⟩ := Option.isSome_iff_exists.mp hsome
  have hf := hread f
  rw [fieldValue, hg] at hf
  rw [fieldValue, gathered_of_last hgiven hafter]
  exact Coercion.read_give_of_read hf

/-- Files that load come together to settings.  The last one to set a field decides its value, and a field
that none sets has its default. -/
theorem exists_build_of_isSilent (hs : s.IsSilent) {ls : List Loaded}
    (h : ∀ m ∈ ls, ∃ layer, ofLayer s layer = .ok m) :
    ∃ l, build s .usual (gathered .empty ls) = .ok l ∧ ∀ f,
      ((∀ m ∈ ls, m.given f = false) → l.settings.get f = Settings.default.get f) ∧
        ∀ before m after, ls = before ++ m :: after → m.given f = true →
          (∀ m' ∈ after, m'.given f = false) → l.settings.get f = m.settings.get f := by
  have hlayer : build s .usual (gathered .empty ls) = ofLayer s (gathered .empty ls) :=
    build_of_isSilent hs _
  have hfields : ∀ f, ∃ a, fieldValue s (gathered .empty ls) f = .ok a := by
    intro f
    obtain hnone | ⟨before, m, after, rfl, hgiven, hafter⟩ := exists_last_given ls f
    · exact ⟨_, fieldValue_gathered_of_forall hnone⟩
    · obtain ⟨layer, hm⟩ := h m (by simp)
      exact ⟨_, fieldValue_gathered_of_last hm hgiven hafter⟩
  obtain ⟨l, hl⟩ := exists_ofLayer hfields
  have hread := (ofLayer_eq_ok_iff.mp hl).1
  refine ⟨l, hlayer.trans hl, fun f => ⟨fun hnone => ?_, ?_⟩⟩
  · have hf := (hread f).symm.trans (fieldValue_gathered_of_forall hnone)
    exact Except.ok.inj hf
  · rintro before m after rfl hgiven hafter
    obtain ⟨layer, hm⟩ := h m (by simp)
    have hf := (hread f).symm.trans (fieldValue_gathered_of_last hm hgiven hafter)
    exact Except.ok.inj hf

/-! ### Lists of files -/

theorem ofLayer_configLayer (hs : s.IsSilent) (hfile : IsPlainFile s file) {l : Loaded}
    (hl : fromFile s (.ofText file) = .ok l) : ofLayer s (configLayer s file) = .ok l := by
  unfold fromFile at hl
  cases hdata : configData s (.ofText file) with
  | error e => simp [hdata] at hl
  | ok data =>
    simp only [hdata, ofTable, SourceOptions.ofTable_of_isSilent (hfile data hdata),
      build_of_isSilent hs] at hl
    simpa only [configLayer, hdata] using hl

theorem given_eq_isSome (hs : s.IsSilent) (hfile : IsPlainFile s file) {l : Loaded}
    (hl : fromFile s (.ofText file) = .ok l) (f : Field) :
    l.given f = (configLayer s file f).isSome :=
  given_of_ofLayer (ofLayer_configLayer hs hfile hl) f

/-- What is gathered decides what comes about. -/
theorem fst_fromSources_of_gather {files files' : List String}
    (h : (gather s .empty files).1 = (gather s .empty files').1) :
    (fromSources s files []).1 = (fromSources s files' []).1 := by
  unfold fromSources
  cases hfirst : gather s .empty files with
  | mk first notices =>
    cases hsecond : gather s .empty files' with
    | mk second notices' =>
      obtain rfl : first = second := by simpa [hfirst, hsecond] using h
      cases first with
      | error e => rfl
      | ok given => cases hbuild : build s .usual given <;> simp [hbuild]

theorem mem_loadedAmong {files : List String} {m : Loaded} :
    m ∈ loadedAmong s files ↔ ∃ file ∈ files, fromFile s (.ofText file) = .ok m := by
  have hsome : ∀ file, (fromFile s (.ofText file)).toOption = some m ↔
      fromFile s (.ofText file) = .ok m := fun file => by
    cases fromFile s (.ofText file) <;> simp [Except.toOption]
  simp only [loadedAmong, List.mem_filterMap, hsome]

theorem loadedAmong_append (files files' : List String) :
    loadedAmong s (files ++ files') = loadedAmong s files ++ loadedAmong s files' :=
  List.filterMap_append

/-- Files of which none stops the loading come together to settings. -/
theorem exists_fromSources_of_passes (hs : s.IsSilent) {files : List String}
    (hfiles : ∀ file ∈ files, IsPlainFile s file) (h : ∀ file ∈ files, Passes s file) :
    ∃ l, fromSources s files [] = (.ok l, missingNotices s files) ∧ ∀ f,
      ((∀ file ∈ files, configLayer s file f = none) →
          l.settings.get f = Settings.default.get f) ∧
        ∀ before file after, files = before ++ file :: after → configLayer s file f ≠ none →
          (∀ name ∈ after, configLayer s name f = none) →
          ∃ m, fromFile s (.ofText file) = .ok m ∧ l.settings.get f = m.settings.get f := by
  have hgather : gather s .empty files =
      (.ok (gathered .empty (loadedAmong s files)), missingNotices s files) := by
    simpa [gather] using gather_append h .empty []
  have hgiven : ∀ {name m}, name ∈ files → fromFile s (.ofText name) = .ok m →
      ∀ f, m.given f = (configLayer s name f).isSome :=
    fun hname hm f => given_eq_isSome hs (hfiles _ hname) hm f
  have hloaded : ∀ m ∈ loadedAmong s files, ∃ layer, ofLayer s layer = .ok m := by
    intro m hm
    obtain ⟨name, hname, hm⟩ := mem_loadedAmong.mp hm
    exact ⟨_, ofLayer_configLayer hs (hfiles name hname) hm⟩
  obtain ⟨l, hl, hvalues⟩ := exists_build_of_isSilent hs hloaded
  refine ⟨l, ?_, fun f => ⟨fun hnone => (hvalues f).1 fun m hm => ?_, ?_⟩⟩
  · simp only [fromSources, hgather, hl]
    rfl
  · obtain ⟨name, hname, hm⟩ := mem_loadedAmong.mp hm
    rw [hgiven hname hm, hnone name hname]
    rfl
  · rintro before file after rfl hset hunset
    obtain hmissing | ⟨m, hm⟩ := h file (by simp)
    · exact absurd (congrFun (configLayer_of_isMissing hmissing) f) hset
    · refine ⟨m, hm, (hvalues f).2 (loadedAmong s before) m (loadedAmong s after) ?_ ?_ fun m' hm' => ?_⟩
      · rw [loadedAmong_append, loadedAmong_of_fromFile hm]
      · rw [hgiven (by simp) hm]
        exact Option.isSome_iff_ne_none.mpr hset
      · obtain ⟨name, hname, hm'⟩ := mem_loadedAmong.mp hm'
        rw [hgiven (by simp [hname]) hm', hunset name hname]
        rfl

/-- A file that stops the loading decides the error, if none before it does, and the paths before it that
lead to nothing are reported. -/
theorem fromSources_of_not_passes (hs : s.IsSilent) {before after : List String}
    (hbefore : ∀ name ∈ before, Passes s name) (hfile : IsPlainFile s file) (hbad : ¬Passes s file)
    {e : Failure} (he : fromFile s (.ofText file) = .error e) :
    fromSources s (before ++ file :: after) [] = (.error e, missingNotices s before) := by
  have hgather := gather_append hbefore .empty (file :: after)
  rw [gather_of_not_passes hs hfile hbad he, List.append_nil] at hgather
  simp only [fromSources, hgather]

/-- A path that is too long to be looked up is not passed over like one that leads to nothing: it stops the
loading. -/
theorem fromSources_of_lookFor (hs : s.IsSilent) {before after : List String}
    (hbefore : ∀ name ∈ before, Passes s name) {fault : DiskFault}
    (h : s.lookFor (.ofText file) = .error fault) :
    fromSources s (before ++ file :: after) [] = (.error (.disk fault), missingNotices s before) := by
  have hdata : configData s (.ofText file) = .error (.disk fault) := by simp only [configData, h]
  have hfile : IsPlainFile s file := fun data hok => nomatch hdata.symm.trans hok
  have hload : fromFile s (.ofText file) = .error (.disk fault) := by simp only [fromFile, hdata]
  have hmissing : s.isMissing file = false := by simp [Surroundings.isMissing, h]
  exact fromSources_of_not_passes hs hbefore hfile (not_passes_iff.mpr ⟨hmissing, _, hload⟩) hload

/-- **What a list of configuration files comes to** in surroundings that give no settings.

The loading fails exactly if a file of the list fails for itself and is not just missing, and then with
the error of the first such file, whatever comes after it.  Otherwise settings come about.  In these a
field has the value that it has in the settings of the last file to set it, or its default if no file sets
it.  Each path that leads to nothing is reported once, in order, as far as the files are gone through, and
has no other effect. -/
theorem fromSources_files (hs : s.IsSilent) {files : List String}
    (hfiles : ∀ file ∈ files, IsPlainFile s file) :
    ((∃ e, (fromSources s files []).1 = .error e) ↔
        ∃ file ∈ files, s.isMissing file = false ∧ ∃ e, fromFile s (.ofText file) = .error e) ∧
      (∀ before file after e, files = before ++ file :: after → (∀ name ∈ before, Passes s name) →
        s.isMissing file = false → fromFile s (.ofText file) = .error e →
        fromSources s files [] = (.error e, missingNotices s before)) ∧
      ((∀ file ∈ files, Passes s file) →
        ∃ l, fromSources s files [] = (.ok l, missingNotices s files) ∧ ∀ f,
          ((∀ file ∈ files, configLayer s file f = none) →
              l.settings.get f = Settings.default.get f) ∧
            ∀ before file after, files = before ++ file :: after → configLayer s file f ≠ none →
              (∀ name ∈ after, configLayer s name f = none) →
              ∃ m, fromFile s (.ofText file) = .ok m ∧ l.settings.get f = m.settings.get f) ∧
      (fromSources s (files.filter fun file => !s.isMissing file) []).1 =
        (fromSources s files []).1 := by
  refine ⟨⟨?_, ?_⟩, ?_, exists_fromSources_of_passes hs hfiles, ?_⟩
  · rintro ⟨e, he⟩
    obtain hall | ⟨before, file, after, rfl, -, hbad⟩ := exists_first_not_passes files
    · obtain ⟨l, hl, -⟩ := exists_fromSources_of_passes hs hfiles hall
      rw [hl] at he
      cases he
    · exact ⟨file, by simp, not_passes_iff.mp hbad⟩
  · rintro ⟨file, hmem, hfails⟩
    obtain hall | ⟨before, first, after, rfl, hbefore, hbad⟩ := exists_first_not_passes files
    · exact absurd (hall file hmem) (not_passes_iff.mpr hfails)
    · obtain ⟨-, e, he⟩ := not_passes_iff.mp hbad
      exact ⟨e, congrArg Prod.fst
        (fromSources_of_not_passes hs hbefore (hfiles first (by simp)) hbad he)⟩
  · rintro before file after e rfl hbefore hmissing he
    exact fromSources_of_not_passes hs hbefore (hfiles file (by simp))
      (not_passes_iff.mpr ⟨hmissing, e, he⟩) he
  · exact fst_fromSources_of_gather (gather_filter hs hfiles .empty)

instance (s : Surroundings) (file : String) : Decidable (IsPlainFile s file) :=
  match hdata : configData s (.ofText file) with
  | .error _ => .isTrue fun _ h => nomatch hdata.symm.trans h
  | .ok data =>
    if h : SourceOptions.IsSilent data then .isTrue fun _ h' => Except.ok.inj (hdata.symm.trans h') ▸ h
    else .isFalse fun h' => h (h' data hdata)

/-- Two configuration files that name a track, and a file in no format of configuration files. -/
def threeFiles : Surroundings where
  disk :=
    ⟨[(workDirectory, .directory), (homeDirectory, .directory),
      (["work", "a.json"],
        .file (Encoding.Utf8.encode "\x7b\"bgm_track\": \"a\", \"debug\": true\x7d".toList)),
      (["work", "b.json"], .file (Encoding.Utf8.encode "\x7b\"bgm_track\": \"b\"\x7d".toList)),
      (["work", "c.ini"], .file [])]⟩
  environment := [("HOME", "/home")]

theorem exists_of_map_toOption {ε α β : Type} {r : Except ε α} {view : α → β} {b : β}
    (h : r.toOption.map view = some b) : ∃ a, r = .ok a ∧ view a = b := by
  cases r with
  | error e => cases h
  | ok a => exact ⟨a, rfl, Option.some.inj h⟩

/-- The second file decides the track, and the first one what it alone sets.  The third one stops the
loading, whatever comes after it. -/
theorem fromSources_files_threeFiles :
    (∃ l, fromSources threeFiles ["a.json", "no.json", "b.json"] [] =
        (.ok l, [.configMissing "no.json"]) ∧ l.settings.bgmTrack = "b" ∧ l.settings.debug = true) ∧
      ∃ e, (fromSources threeFiles ["no.json", "c.ini", "b.json"] []).1 = .error e := by
  have hs : threeFiles.IsSilent := ⟨by decide, by decide⟩
  constructor
  · have hplain : ∀ file ∈ ["a.json", "no.json", "b.json"], IsPlainFile threeFiles file := by
      decide +kernel
    have ha : (fromFile threeFiles (.ofText "a.json")).toOption.map (·.settings.debug) = some true := by
      decide +kernel
    have hb : (fromFile threeFiles (.ofText "b.json")).toOption.map (·.settings.bgmTrack) = some "b" := by
      decide +kernel
    obtain ⟨a, ha, hdebug⟩ := exists_of_map_toOption ha
    obtain ⟨b, hb, htrack⟩ := exists_of_map_toOption hb
    have hmissing : threeFiles.isMissing "no.json" = true := by decide +kernel
    have hpass : ∀ file ∈ ["a.json", "no.json", "b.json"], Passes threeFiles file := by
      simp only [List.forall_mem_cons]
      exact ⟨.inr ⟨a, ha⟩, .inl hmissing, .inr ⟨b, hb⟩, List.forall_mem_nil _⟩
    have hseta : (configLayer threeFiles "a.json" .debug).isSome = true := by decide +kernel
    have hsetb : (configLayer threeFiles "b.json" .bgmTrack).isSome = true := by decide +kernel
    have hunset : ∀ file ∈ ["no.json", "b.json"], (configLayer threeFiles file .debug).isNone = true := by
      decide +kernel
    have hnotices : missingNotices threeFiles ["a.json", "no.json", "b.json"] =
        [.configMissing "no.json"] := by decide +kernel
    obtain ⟨l, hl, hvalues⟩ := (fromSources_files hs hplain).2.2.1 hpass
    obtain ⟨b', hb', hlb⟩ := (hvalues .bgmTrack).2 ["a.json", "no.json"] "b.json" [] rfl
      (Option.isSome_iff_ne_none.mp hsetb) (List.forall_mem_nil _)
    obtain ⟨a', ha', hla⟩ := (hvalues .debug).2 [] "a.json" ["no.json", "b.json"] rfl
      (Option.isSome_iff_ne_none.mp hseta) fun name hname => Option.isNone_iff_eq_none.mp (hunset name hname)
    obtain rfl := Except.ok.inj (hb.symm.trans hb')
    obtain rfl := Except.ok.inj (ha.symm.trans ha')
    exact ⟨l, hnotices ▸ hl, hlb.trans htrack, hla.trans hdebug⟩
  · have hplain : ∀ file ∈ ["no.json", "c.ini", "b.json"], IsPlainFile threeFiles file := by
      decide +kernel
    have hmissing : threeFiles.isMissing "c.ini" = false := by decide +kernel
    have hc : (fromFile threeFiles (.ofText "c.ini")).isOk = false := by decide +kernel
    refine (fromSources_files hs hplain).1.mpr ⟨"c.ini", by simp, hmissing, ?_⟩
    cases hload : fromFile threeFiles (.ofText "c.ini") with
    | error e => exact ⟨e, rfl⟩
    | ok l =>
      rw [hload] at hc
      cases hc

end Loaded

end Daihon

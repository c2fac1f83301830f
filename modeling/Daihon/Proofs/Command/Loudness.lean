import Daihon.Command.Run
import Daihon.Proofs.Settings.Caching
import Daihon.Proofs.Settings.Variables

/-!
# How loud the log gets

The options for a louder log set variables of the environment, and the global settings are loaded anew
(`tune_of_loads`).  So what they ask for outranks the environment and the `.env` file, but it ranks below the
last configuration file: where this sets the field, its value counts, and the option has no effect
(`tuned_below_last_file`).
-/

namespace Daihon.Command

/-! ### What is asked for -/

/-- The surroundings with the variables set that ask for a log of the given loudness. -/
def Loudness.over (l : Loudness) (s : Surroundings) : Surroundings :=
  { s with environment := Table.putAll s.environment l.asked }

/-- The values of fields that the options of a command line ask for: full detail, or else a threshold if
neither an option nor the environment asks for full detail. -/
inductive Arguments.Demands (s : Surroundings) (a : Arguments) : (f : Field) → f.type.Carrier → Prop
  | detail (h : a.has .debug) : Demands s a .debug true
  | lowest (h : a.has .debug) : Demands s a .logLevel Level.debug
  | lower (h : a.has .verbose) (hflag : ¬ a.has .debug) (hvariable : debugAsked? s = some false) :
    Demands s a .logLevel Level.info

/-- The environment sets each variable once, and names those that ask for a loudness in no other case. -/
structure Loudness.IsSpelledOnce (l : Loudness) (environment : Table String) : Prop where
  once : (Table.keys environment).Nodup
  spelled : ∀ key ∈ Table.keys environment, ∀ name ∈ Table.keys l.asked,
    Text.lower key = Text.lower name → key = name

section Asked

variable {l : Loudness} {s : Surroundings}

theorem nodup_keys_asked (l : Loudness) : (Table.keys l.asked).Nodup := by
  unfold Loudness.asked
  split <;> decide

/-- The two variables differ in more than case. -/
theorem eq_of_lower_eq_asked {key name : String} (hkey : key ∈ Table.keys l.asked)
    (hname : name ∈ Table.keys l.asked) (h : Text.lower key = Text.lower name) : key = name := by
  have hboth : ∀ a ∈ [levelVariable, debugVariable], ∀ b ∈ [levelVariable, debugVariable],
      Text.lower a = Text.lower b → a = b := by decide
  have hsubset : Table.keys l.asked ⊆ [levelVariable, debugVariable] := by
    unfold Loudness.asked
    split <;> decide
  exact hboth key (hsubset hkey) name (hsubset hname) h

/-- The variables that ask for a loudness are spelled once where they have been set. -/
theorem Loudness.IsSpelledOnce.over (h : l.IsSpelledOnce s.environment) {name : String}
    (hname : name ∈ Table.keys l.asked) : Daihon.IsSpelledOnce (l.over s).environment name where
  once := Table.nodup_keys_putAll h.once l.asked
  spelled key hkey hlower := by
    rcases Table.mem_keys_putAll.mp hkey with hkey | hkey
    · exact h.spelled key hkey name hname hlower
    · exact eq_of_lower_eq_asked hkey hname hlower

theorem get?_over {name text : String} (h : (name, text) ∈ l.asked) :
    Table.get? (l.over s).environment name = some text := by
  have hasked : Table.get? l.asked name = some text :=
    (Table.get?_eq_some_iff (nodup_keys_asked l)).mpr h
  rw [Loudness.over, Table.get?_putAll (nodup_keys_asked l), hasked]
  rfl

end Asked

/-! ### Options and loudness -/

section Options

variable {s : Surroundings} {args : List String} {a : Arguments} {o : Opening}

/-- The options of a command line and the environment say how loud the log is to be. -/
theorem loudness_of_read (ha : Arguments.read [.verbose, .debug] false args = some a)
    (ho : Opening.read s args = some o) :
    o.loudness.verbose = a.has .verbose ∧
      (if a.has .debug then some true else debugAsked? s) = some o.loudness.debug := by
  simp only [Opening.read, ha] at ho
  split at ho
  · next debug name rest hdebug hwords =>
    obtain ⟨command, -, rfl⟩ := Option.map_eq_some_iff.mp ho
    exact ⟨rfl, hdebug⟩
  · cases ho

/-- What a command line asks for is asked for by a variable. -/
theorem Arguments.Demands.exists_asked {f : Field} {v : f.type.Carrier} (h : a.Demands s f v)
    (ha : Arguments.read [.verbose, .debug] false args = some a) (ho : Opening.read s args = some o) :
    (o.loudness.debug || o.loudness.verbose) = true ∧ f.type ≠ .names ∧
      ∃ name text, (name, text) ∈ o.loudness.asked ∧
        SourceOptions.usual.variableName f.name = Text.lower name ∧
        ∀ w, Coercion.read w f.type (.data (.text text)) = .ok v := by
  obtain ⟨hverbose, hdebug⟩ := loudness_of_read ha ho
  cases h with
  | detail h =>
    rw [if_pos h, Option.some.injEq] at hdebug
    refine ⟨by rw [← hdebug]; rfl, by decide, debugVariable, "true", ?_, by decide, fun w => rfl⟩
    rw [Loudness.asked, if_pos hdebug.symm]
    exact .tail _ (.head _)
  | lowest h =>
    rw [if_pos h, Option.some.injEq] at hdebug
    refine ⟨by rw [← hdebug]; rfl, by decide, levelVariable, Level.capitals .debug, ?_, by decide,
      fun w => Coercion.read_give w (t := .level) (by decide) Level.debug⟩
    rw [Loudness.asked, if_pos hdebug.symm]
    exact .head _
  | lower h hflag hvariable =>
    rw [if_neg hflag, hvariable, Option.some.injEq] at hdebug
    refine ⟨by rw [hverbose, h, Bool.or_true], by decide, levelVariable, Level.capitals .info, ?_,
      by decide, fun w => Coercion.read_give w (t := .level) (by decide) Level.info⟩
    rw [Loudness.asked, if_neg (by rw [← hdebug]; decide)]
    exact .head _

end Options

/-! ### The global settings and the log -/

section Tune

variable {s : Surroundings} {l : Loudness}

/-- Turning the log up loads the global settings with the variables set, and sets up the log from them. -/
theorem tune_of_loads (hl : (l.debug || l.verbose) = true) {loaded : Loaded} {notices : List Notice}
    (hload : Loaded.standard (l.over s) = (.ok loaded, notices)) :
    tune { surroundings := s } l =
      match Logging.configure (l.over s) (.ofSettings loaded.settings) with
      | .error e => (.error e, { surroundings := l.over s, cache := some ⟨0, loaded⟩, next := 1 })
      | .ok (setup, after) =>
        (.ok (), { surroundings := after, cache := some ⟨0, loaded⟩, next := 1, log := some setup }) := by
  have hglobal := Session.global_of_ok (s := { surroundings := l.over s }) rfl hload
  have hturn : turnUp { surroundings := s } l = Session.configureLog { surroundings := l.over s } := rfl
  unfold tune
  rw [if_pos hl, hturn, Session.configureLog, hglobal]
  dsimp only
  cases Logging.configure (l.over s) (.ofSettings loaded.settings) <;> rfl

theorem thresholdOf_capitals (level : Level) :
    ∃ n, Logging.thresholdOf (.text level.capitals) = .ok ⟨n, level.capitals⟩ := by
  cases level <;> exact ⟨_, rfl⟩

/-- A log that has been set up from settings has their threshold, and full detail if they ask for it. -/
theorem configure_ofSettings {settings : Settings} {setup : Logging.Setup} {after : Surroundings}
    (h : Logging.configure s (.ofSettings settings) = .ok (setup, after)) :
    setup.threshold.name = settings.logLevel.capitals ∧ setup.debug = settings.debug := by
  unfold Logging.configure at h
  obtain ⟨threshold, hthreshold, h⟩ := exists_of_bind_eq_ok h
  obtain ⟨file, -, h⟩ := exists_of_bind_eq_ok h
  obtain ⟨⟨targets, t⟩, -, h⟩ := exists_of_bind_eq_ok h
  obtain ⟨format, -, h⟩ := exists_of_bind_eq_ok h
  obtain ⟨n, hn⟩ := thresholdOf_capitals settings.logLevel
  obtain rfl := Except.ok.inj (hn.symm.trans hthreshold)
  obtain ⟨rfl, -⟩ := Prod.mk.inj (Except.ok.inj h)
  exact ⟨rfl, rfl⟩

end Tune

/-! ### Main statement -/

/-- **Options for a louder log rank below the last configuration file.**  Where settings load with the
variables set that a command line asks for, they become the global settings, and the log is set up from them.
A field for which it asks for a value has this value if there are no configuration files, or if the last one
does not set the field; otherwise it has the value of that file, whatever is asked for. -/
theorem tuned_below_last_file {s : Surroundings} {args : List String} {a : Arguments} {o : Opening}
    (ha : Arguments.read [.verbose, .debug] false args = some a) (ho : Opening.read s args = some o)
    (hspelled : o.loudness.IsSpelledOnce s.environment) {f : Field} {v : f.type.Carrier}
    (hdemand : a.Demands s f v) {paths : List Path} {loaded : Loaded} {notices : List Notice}
    (hpaths : Loaded.standardFiles (o.loudness.over s) = .ok paths)
    (hload : Loaded.standard (o.loudness.over s) = (.ok loaded, notices)) :
    let tuned := o.loudness.over s
    tune { surroundings := s } o.loudness =
        (match Logging.configure tuned (.ofSettings loaded.settings) with
        | .error e => (.error e, { surroundings := tuned, cache := some ⟨0, loaded⟩, next := 1 })
        | .ok (setup, after) =>
          (.ok (), { surroundings := after, cache := some ⟨0, loaded⟩, next := 1, log := some setup })) ∧
      (∀ setup after, Logging.configure tuned (.ofSettings loaded.settings) = .ok (setup, after) →
        setup.threshold.name = loaded.settings.logLevel.capitals ∧
          setup.debug = loaded.settings.debug) ∧
      (paths = [] → loaded.settings.get f = v) ∧
      ∀ earlier last data, paths.map Path.text = earlier ++ [last] →
        configData tuned (.ofText last) = .ok data → SourceOptions.IsSilent data →
          match Layer.ofTable .usual data f with
          | none => loaded.settings.get f = v
          | some g => Coercion.read tuned f.type g = .ok (loaded.settings.get f) := by
  intro tuned
  obtain ⟨hloud, hf, name, text, hasked, hname, hread⟩ := hdemand.exists_asked ha ho
  have hsources : (Loaded.fromSources tuned (paths.map Path.text) []).1 = .ok loaded := by
    have hbind := Loaded.standard_eq_bind (s := tuned)
    rw [hload, hpaths] at hbind
    exact hbind.symm
  have hgives : VariableGives tuned name text f v :=
    ⟨hspelled.over (List.mem_map_of_mem hasked), get?_over hasked, hname, hf, hread tuned⟩
  obtain ⟨hnone, hlast⟩ := Loaded.value_of_variable hgives hsources
  exact ⟨tune_of_loads hloud hload, fun _ _ => configure_ofSettings,
    fun hpaths => hnone (List.map_eq_nil_iff.mpr hpaths), hlast⟩

/-- Two configuration files for a quiet log: the first sets the threshold, and the last switches full detail
off. -/
def quietFiles : Surroundings where
  disk :=
    ⟨[(workDirectory, .directory), (homeDirectory, .directory),
      (["work", "vnscript.yaml"], .file (Encoding.Utf8.encode "log_level: ERROR".toList)),
      (["work", "vnscript.json"], .file (Encoding.Utf8.encode "\x7b\"debug\": \"off\"\x7d".toList))]⟩
  environment := [(homeVariable, homeText), (levelVariable, Level.capitals .error)]

/-- Of what the option asks for, the threshold comes about, which only the first file sets, and full detail does
not, which the last file switches off. -/
theorem tuned_below_last_file_quietFiles :
    ∃ loaded : Loaded, (tune { surroundings := quietFiles } ⟨false, true⟩).2.cache = some ⟨0, loaded⟩ ∧
      loaded.settings.logLevel = .debug ∧ loaded.settings.debug = false := by
  have ha : Arguments.read [.verbose, .debug] false ["--debug", "parse", "a.txt"] =
      some ⟨[(.debug, "")], ["parse", "a.txt"]⟩ := by decide
  have ho : Opening.read quietFiles ["--debug", "parse", "a.txt"] =
      some ⟨⟨false, true⟩, .parse, ["a.txt"]⟩ := by decide
  have hspelled : Loudness.IsSpelledOnce ⟨false, true⟩ quietFiles.environment :=
    ⟨by decide, by decide⟩
  let tuned := Loudness.over ⟨false, true⟩ quietFiles
  have hpaths : (Loaded.standardFiles tuned).toOption.map (fun paths => paths.map Path.text) =
      some ["/work/vnscript.yaml", "/work/vnscript.json"] := by decide +kernel
  have hdata : (configData tuned (.ofText "/work/vnscript.json")).toOption.map (fun data =>
      (decide (SourceOptions.IsSilent data), (Layer.ofTable .usual data .logLevel).isNone,
        Loaded.givenText? (.ofTable .usual data) .debug)) = some (true, true, some "off") := by
    decide +kernel
  have hloads : (Loaded.standard tuned).1.toOption.isSome := by decide +kernel
  obtain ⟨paths, hpaths, htexts⟩ := Loaded.exists_of_map_toOption hpaths
  obtain ⟨data, hdata, hgiven⟩ := Loaded.exists_of_map_toOption hdata
  obtain ⟨hsilent, hlevel, hdebug⟩ : SourceOptions.IsSilent data ∧
      Layer.ofTable .usual data .logLevel = none ∧
        Loaded.givenText? (.ofTable .usual data) .debug = some "off" := by simpa using hgiven
  rcases hload : Loaded.standard tuned with ⟨e | loaded, notices⟩
  · rw [hload] at hloads
    cases hloads
  · obtain ⟨htune, -, -, hthreshold⟩ :=
      tuned_below_last_file ha ho hspelled (.lowest rfl) hpaths hload
    obtain ⟨-, -, -, hdetail⟩ := tuned_below_last_file ha ho hspelled (.detail rfl) hpaths hload
    have hthreshold := hthreshold ["/work/vnscript.yaml"] _ data htexts hdata hsilent
    have hdetail := hdetail ["/work/vnscript.yaml"] _ data htexts hdata hsilent
    rw [hlevel] at hthreshold
    rw [Loaded.eq_of_givenText? hdebug] at hdetail
    refine ⟨loaded, ?_, hthreshold, (Except.ok.inj hdetail).symm⟩
    rw [htune]
    split <;> rfl

end Daihon.Command

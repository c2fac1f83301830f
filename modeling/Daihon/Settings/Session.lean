import Daihon.Logging.Setup
import Daihon.Settings.Loading

/-!
# Sessions

A session keeps the global settings.  They are loaded from the standard places when they are first
asked for, and kept until they are set, cleared or reset; a load that fails keeps nothing.  The first
logger that is asked for sets up the log from the global settings.

* `Session.global` gives the global settings and loads them if need be;
* `Session.forCommand` gives the settings of a command, with a configuration file of its own or with
  the global settings, and overrides.
-/

namespace Daihon

/-- Settings with the serial number of the object that holds them. -/
structure Held where
  serial : Nat
  loaded : Loaded

/-- The state of a session. -/
structure Session where
  surroundings : Surroundings
  cache : Option Held := none
  /-- The serial number of the next settings object. -/
  next : Nat := 0
  /-- The log, once it has been set up. -/
  log : Option Logging.Setup := none
  /-- Whether a logger that is asked for first has the log set up. -/
  isConfigured : Bool := false
  loggers : List String := []

namespace Session

/-- What an operation of a session gives: an answer, the session after it, and the notices made on the
way. -/
structure Outcome (α : Type) where
  answer : Except Failure α
  session : Session
  notices : List Notice := []

def hold (s : Session) (loaded : Loaded) : Held × Session :=
  (⟨s.next, loaded⟩, { s with next := s.next + 1 })

/-- The outcome of loading settings. -/
def holding (s : Session) (result : Except Failure Loaded × List Notice) : Outcome Held :=
  match result with
  | (.error e, notices) => ⟨.error e, s, notices⟩
  | (.ok loaded, notices) =>
    let (held, s) := s.hold loaded
    ⟨.ok held, s, notices⟩

/-- The global settings, loaded if there are none. -/
def global (s : Session) : Outcome Held :=
  match s.cache with
  | some held => ⟨.ok held, s, []⟩
  | none =>
    match s.holding (Loaded.standard s.surroundings) with
    | ⟨.ok held, s, notices⟩ => ⟨.ok held, { s with cache := some held }, notices⟩
    | outcome => outcome

def set (s : Session) (loaded : Loaded) : Session :=
  let (held, s) := s.hold loaded
  { s with cache := some held }

def clear (s : Session) : Session :=
  { s with cache := none }

def reset (s : Session) : Session :=
  { s with cache := none, isConfigured := false, loggers := [] }

/-- The settings of a command.  With a configuration file of its own the global settings are neither
read nor changed; overrides are never kept. -/
def forCommand (s : Session) (config : Option Path) (overrides : Table Value) : Outcome Held :=
  match config with
  | some path => s.holding (Loaded.fromNamedFile s.surroundings path overrides)
  | none =>
    match s.global with
    | ⟨.ok held, s, notices⟩ =>
      if (Layer.withoutNull overrides).isEmpty then ⟨.ok held, s, notices⟩
      else
        let outcome := s.holding (held.loaded.override s.surroundings overrides, [])
        { outcome with notices := notices ++ outcome.notices }
    | outcome => outcome

def configureLog (s : Session) : Outcome Settings :=
  match s.global with
  | ⟨.error e, s, notices⟩ => ⟨.error e, s, notices⟩
  | ⟨.ok held, s, notices⟩ =>
    let settings := held.loaded.settings
    match Logging.configure s.surroundings (.ofSettings settings) with
    | .error e => ⟨.error e, s, notices⟩
    | .ok (setup, surroundings) => ⟨.ok settings, { s with surroundings, log := some setup }, notices⟩

/-- Asks for a logger: whether it had been asked for before. -/
def logger (s : Session) (name : String) : Outcome Bool :=
  if s.loggers.contains name then ⟨.ok true, s, []⟩
  else if s.isConfigured then ⟨.ok false, { s with loggers := name :: s.loggers }, []⟩
  else
    match s.configureLog with
    | ⟨.error e, s, notices⟩ => ⟨.error e, s, notices⟩
    | ⟨.ok _, s, notices⟩ =>
      ⟨.ok false, { s with isConfigured := true, loggers := name :: s.loggers }, notices⟩

def thresholdName (s : Session) : String :=
  match s.log with
  | some setup => setup.threshold.name
  | none => Level.capitals .warning

end Session

end Daihon

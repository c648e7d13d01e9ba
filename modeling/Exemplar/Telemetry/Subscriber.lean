import Exemplar.Telemetry.Filter
import Exemplar.Telemetry.LogLine

namespace Exemplar

inductive TelemetryError where
  | invalidFilter (filter cause : String)
  | alreadyInstalled
  deriving DecidableEq, Repr

def TelemetryError.message : TelemetryError → String
  | invalidFilter filter cause => "invalid log filter '" ++ filter ++ "': " ++ cause
  | alreadyInstalled => "a tracing subscriber is already installed"

/-- The subscriber of a process: none so far, the host's, or the engine's. -/
inductive Subscriber (φ : Type) where
  | absent
  | foreign
  | own (filter : φ) (format : LogFormat)
  deriving DecidableEq, Repr

namespace Subscriber

variable {φ : Type}

/-- Installs the host's own subscriber, and says whether there was none before. -/
def installForeign : Subscriber φ → Bool × Subscriber φ
  | absent => (true, foreign)
  | s => (false, s)

variable [FilterLanguage φ]

/-- Installs the engine's subscriber and gives its format. Once it is installed, the format of then is
given whatever the settings are. -/
def initialise (config : Config) : Subscriber φ → Except TelemetryError LogFormat × Subscriber φ
  | own filter format => (.ok format, own filter format)
  | s =>
    match FilterLanguage.read config.logFilter with
    | .error cause => (.error (.invalidFilter config.logFilter cause), s)
    | .ok filter =>
      match s with
      | absent => (.ok config.logFormat, own filter config.logFormat)
      | s => (.error .alreadyInstalled, s)

def admits (s : Subscriber φ) (level : Level) (target : String) : Bool :=
  match s with
  | own filter _ => FilterLanguage.admits filter level target
  | _ => false

def write (s : Subscriber φ) (events : List Event) : List String :=
  match s with
  | own filter format =>
    (events.filter fun e => FilterLanguage.admits filter e.level e.target).map (·.logLine format)
  | _ => []

end Subscriber

end Exemplar

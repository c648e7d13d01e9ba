import Exemplar.Config.Basic
import Exemplar.Registry.Run
import Exemplar.Telemetry.Subscriber

namespace Exemplar

variable {β σ φ : Type}

structure Process (β φ : Type) where
  subscriber : Subscriber φ
  shared : Registry β

/-- Why a spec was not run, or not to its end. -/
inductive LaunchError where
  | config (e : ConfigError)
  | telemetry (e : TelemetryError)
  | spec (e : SpecError)
  | panicked (p : Payload)
  deriving DecidableEq, Repr

def LaunchError.ofAbort : Abort → LaunchError
  | .failed e => spec e
  | .panicked p => panicked p

namespace Process

variable [FilterLanguage φ]

/-- Says that the log is ready. The name of the spec is asked for only if that is written. -/
def announce (spec : Spec β σ) (format : LogFormat) (p : Process β φ) (t : Thread σ) :
    Except Payload Unit × Thread σ :=
  match spec.name with
  | .ok name => (.ok (), t.emit (.telemetryReady name format))
  | .error payload =>
    if p.subscriber.admits .debug Event.harnessTarget then (.error payload, t) else (.ok (), t)

def launchWith (exec : β → Action σ) (spec : Spec β σ) (config : Config) (format : LogFormat)
    (p : Process β φ) (t : Thread σ) : Except LaunchError Summary × Process β φ × Thread σ :=
  match p.announce spec format t with
  | (.error payload, t) => (.error (.panicked payload), p, t)
  | (.ok (), t) =>
    let (result, shared, t) := p.shared.runSpec exec spec config t
    (result.mapError .ofAbort, { p with shared }, t)

/-- Runs a spec with the settings that were loaded from the environment. -/
def launch (exec : β → Action σ) (spec : Spec β σ) (loaded : Except ConfigError Config)
    (p : Process β φ) (t : Thread σ) : Except LaunchError Summary × Process β φ × Thread σ :=
  match loaded with
  | .error e => (.error (.config e), p, t)
  | .ok config =>
    match p.subscriber.initialise config with
    | (.error e, subscriber) => (.error (.telemetry e), { p with subscriber }, t)
    | (.ok format, subscriber) => launchWith exec spec config format { p with subscriber } t

end Process

end Exemplar

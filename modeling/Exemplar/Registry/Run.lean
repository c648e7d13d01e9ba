import Exemplar.Registry.Basic
import Exemplar.Report.Summary

namespace Exemplar

variable {β σ ρ : Type}

namespace Bridge

def runNext (exec : β → Action σ) (recorder : Recorder ρ) (b : Bridge β) (id : String)
    (summary : Summary) (s : Stage σ ρ) : Except SpecError Summary × Stage σ ρ :=
  let b := b.setCurrent id
  match b.displayName with
  | .error e => (.error e, s)
  | .ok name =>
    match b.runCurrent exec recorder s with
    | (.error e, s) => (.error e, s)
    | (.ok outcome, s) => (.ok (summary.push (.ofOutcome name id outcome)), s)

def runEach (exec : β → Action σ) (recorder : Recorder ρ) (b : Bridge β) :
    List String → Summary → Stage σ ρ → Except SpecError Summary × Stage σ ρ
  | [], summary, s => (.ok summary, s)
  | id :: ids, summary, s =>
    match b.runNext exec recorder id summary s with
    | (.error e, s) => (.error e, s)
    | (.ok summary, s) => runEach exec recorder b ids summary s

/-- Runs all invocations and says how many ended in which way. -/
def runAll (exec : β → Action σ) (recorder : Recorder ρ) (b : Bridge β) (s : Stage σ ρ) :
    Except SpecError Summary × Stage σ ρ :=
  match b.runEach exec recorder (b.invocations.map Invocation.id) (.start b.spec) s with
  | (.error e, s) => (.error e, s)
  | (.ok summary, s) =>
    (.ok summary, s.emit (.runFinished summary.spec summary.passed summary.failed summary.pending))

end Bridge

namespace Registry

/-- Runs every example of a spec and reports failures to the recorder. -/
def runSpecWith (exec : β → Action σ) (recorder : Recorder ρ) (spec : Spec β σ) (config : Config)
    (r : Registry β) (s : Stage σ ρ) : Except Abort Summary × Registry β × Stage σ ρ :=
  match r.bridgeFor spec config s.thread with
  | (.error e, r, thread) => (.error e, r, { s with thread })
  | (.ok bridge, r, thread) =>
    let (result, s) := bridge.runAll exec recorder { s with thread }
    (result.mapError .failed, r, s)

/-- Runs every example of a spec. Failures are only collected for the length of the run. -/
def runSpec (exec : β → Action σ) (spec : Spec β σ) (config : Config) (r : Registry β)
    (t : Thread σ) : Except Abort Summary × Registry β × Thread σ :=
  let (result, r, s) := r.runSpecWith exec collecting spec config ⟨t, []⟩
  (result, r, s.thread)

end Registry

end Exemplar

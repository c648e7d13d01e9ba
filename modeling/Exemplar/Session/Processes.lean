import Exemplar.Session.Basic

namespace Exemplar.Request

def setVariable (name : String) (value : Option String) : Request Unit :=
  modify fun s =>
    { s with
      surroundings :=
        { s.surroundings with environment := s.surroundings.environment.update name value } }

/-- Installs a subscriber of the host's, and says whether there was none before. -/
def installForeign : Request Bool := do
  let s ← get
  let (first, subscriber) := s.subscriber.installForeign
  set { s with subscriber }
  return first

def initialiseTelemetry (config : Config) : Request LogFormat := do
  let s ← get
  let (result, subscriber) := s.subscriber.initialise config
  set { s with subscriber }
  match result with
  | .ok format => pure format
  | .error e => throw (.telemetry e)

/-- Starts a spec from the environment, in the shared registry. -/
def launch (key : Nat) : Request Summary := do
  let s ← get
  let (result, process, thread) :=
    Process.launch s.exec (s.spec key) (Config.ofSurroundings s.surroundings)
      ⟨s.subscriber, s.world .shared⟩ s.thread
  set ({ s with thread, subscriber := process.subscriber }.setWorld .shared process.shared)
  match result with
  | .ok summary => pure summary
  | .error (.panicked payload) => throw (.panicked payload)
  | .error e => throw (.launch e)

end Exemplar.Request

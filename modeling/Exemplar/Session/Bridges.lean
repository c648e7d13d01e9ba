import Exemplar.Session.Trees

namespace Exemplar.Request

def bridgeView (bridge : Bridge Closure) : String × List String :=
  (bridge.spec, bridge.invocations.map Invocation.id)

def separated (separator : String) : Request Config :=
  match Config.default.withNameSeparator separator with
  | .ok config => pure config
  | .error e => throw (.config e)

def makeBridge (b : String) (w : WorldName) (key : Nat) (separator : String) :
    Request (String × List String) := do
  let config ← separated separator
  let bridge ← orProblem (← onWorld w fun s r t => r.bridgeFor (s.spec key) config t)
  setBridge b bridge
  return bridgeView bridge

/-- Makes a bridge, under a name of its own, over the group at a path of a spec's tree. -/
def makeBridgeOver (b : String) (w : WorldName) (key : Nat) (name separator : String)
    (path : List Nat) : Request (String × List String) := do
  let tree ← tree w key
  let made ← onWorld w fun _ r t =>
    match r.bridgeOver key name separator tree path t with
    | some (bridge, r, t) => (some bridge, r, t)
    | none => (none, r, t)
  match made with
  | some bridge =>
    setBridge b bridge
    return bridgeView bridge
  | none => throw .noSuchGroup

def orSpecError {α : Type} (result : Except SpecError α) : Request α :=
  match result with
  | .ok a => pure a
  | .error e => throw (.spec e)

def select (b : String) (ref : InvocationRef) : Request (Option String) := do
  let bridge ← bridge b
  let bridge := bridge.setCurrent (ref.resolve bridge)
  setBridge b bridge
  return bridge.current

def displayName (b : String) : Request String := do
  orSpecError (← bridge b).displayName

def displayNameOf (b : String) (ref : InvocationRef) : Request String := do
  let bridge ← bridge b
  orSpecError (bridge.displayNameOf (ref.resolve bridge))

def boundExample (b : String) (ref : InvocationRef) : Request (Example Closure) := do
  let bridge ← bridge b
  orSpecError (bridge.getExample (ref.resolve bridge))

/-- Works on the session's thread and on the failures of a recorder. -/
def onStage {α : Type} (r : String)
    (f : Session → Recorder (List RecordedFailure) → Stage Store (List RecordedFailure) →
      α × Stage Store (List RecordedFailure)) : Request α := do
  let s ← get
  let recorder := s.recorder r
  let (a, stage) := f s recorder.behaviour ⟨s.thread, recorder.failures⟩
  set
    { s with
      thread := stage.thread
      recorders := s.recorders.insert r { recorder with failures := stage.host } }
  return a

def run (b r : String) (ref : InvocationRef) : Request Outcome := do
  let bridge ← bridge b
  orSpecError (← onStage r fun s recorder stage =>
    bridge.run s.exec recorder (ref.resolve bridge) stage)

def runCurrent (b r : String) : Request Outcome := do
  let bridge ← bridge b
  orSpecError (← onStage r fun s recorder stage => bridge.runCurrent s.exec recorder stage)

def makeRecorder (r : String) (limit : Option Nat) (message : String) : Request Unit :=
  modify fun s => { s with recorders := s.recorders.insert r ⟨limit, message, []⟩ }

def failures (r : String) : Request (List RecordedFailure) := return ((← get).recorder r).failures

/-- The failures that a recorder has kept; the recorder is gone afterwards. -/
def takeFailures (r : String) : Request (List RecordedFailure) := do
  let kept ← failures r
  modify fun s => { s with recorders := s.recorders.erase r }
  return kept

/-- Runs every example of a spec with a separator, and reports failures to a recorder if one is
named. -/
def runSpec (w : WorldName) (key : Nat) (separator : String) (r : Option String) :
    Request Summary := do
  let config ← separated separator
  match r with
  | none => orProblem (← onWorld w fun s registry t => registry.runSpec s.exec (s.spec key) config t)
  | some r =>
    let registry := (← get).world w
    let (result, registry) ← onStage r fun s recorder stage =>
      let (result, registry, stage) :=
        registry.runSpecWith s.exec recorder (s.spec key) config stage
      ((result, registry), stage)
    modify (·.setWorld w registry)
    orProblem result

end Exemplar.Request

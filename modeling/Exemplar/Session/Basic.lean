import Std.Data.HashMap
import Exemplar.Config.Load
import Exemplar.Registry.Launch
import Exemplar.Script.Perform

namespace Exemplar

/-- The registries of a session: numbered ones, and the one that all of a process share. -/
inductive WorldName where
  | numbered (n : Nat)
  | shared
  deriving DecidableEq, Repr, Hashable, Inhabited

/-- A recorder of a session: it keeps failures, and may accept only so many of them. -/
structure HostRecorder where
  limit : Option Nat
  message : String
  failures : List RecordedFailure
  deriving Repr

namespace HostRecorder

def unlimited : HostRecorder := ⟨none, "", []⟩

def behaviour (h : HostRecorder) : Recorder (List RecordedFailure) :=
  match h.limit with
  | none => collecting
  | some limit => acceptingAtMost limit h.message

end HostRecorder

/-- Which compiled tree an answer refers to. A registry compiles a spec once, so the registry and
the spec identify the tree. -/
structure TreeIdentity where
  world : WorldName
  spec : Nat
  deriving DecidableEq, Repr

structure Session where
  definitions : List Definition
  thread : Thread Store
  worlds : Std.HashMap WorldName (Registry Closure)
  bridges : Std.HashMap String (Bridge Closure)
  recorders : Std.HashMap String HostRecorder
  kept : Std.HashMap String TreeIdentity
  /-- Events emitted on threads other than the session's own. -/
  elsewhere : Trace
  surroundings : Surroundings
  subscriber : Subscriber Filter
  written : Array String

/-- Why a request gave no result. -/
inductive Problem where
  | spec (e : SpecError)
  | panicked (p : Payload)
  | config (e : ConfigError)
  | telemetry (e : TelemetryError)
  | launch (e : LaunchError)
  | noSuchGroup
  | noSuchBridge
  deriving DecidableEq, Repr

def Problem.ofAbort : Abort → Problem
  | .failed e => spec e
  | .panicked p => panicked p

/-- A request to a session: it may fail, and what it did until then stays done. -/
abbrev Request (α : Type) := ExceptT Problem (StateM Session) α

namespace Session

def start (definitions : List Definition) (files : FileTree) : Session where
  definitions := definitions
  thread := .fresh .empty
  worlds := ∅
  bridges := ∅
  recorders := ∅
  kept := ∅
  elsewhere := #[]
  surroundings := ⟨[], files⟩
  subscriber := .absent
  written := #[]

def definition (s : Session) (key : Nat) : Definition := s.definitions[key]?.getD .blank

def spec (s : Session) (key : Nat) : Spec Closure Store := (s.definition key).spec key

/-- How hooks and bodies are called. A run inside a run of the same spec would never end, so the
number of places bounds the depth. -/
def exec (s : Session) : Closure → Action Store :=
  Closure.exec s.definition (s.definitions.length + 1)

def world (s : Session) (w : WorldName) : Registry Closure := s.worlds.getD w .empty

def recorder (s : Session) (r : String) : HostRecorder := s.recorders.getD r .unlimited

def setWorld (s : Session) (w : WorldName) (registry : Registry Closure) : Session :=
  { s with worlds := s.worlds.insert w registry }

/-- Serves a request, and writes the events that it brings to the log. -/
def handle {α : Type} (s : Session) (request : Request α) : Except Problem α × Session :=
  let (result, after) := StateT.run (ExceptT.run request) s
  let events :=
    after.thread.trace.toList.drop s.thread.trace.size ++
      after.elsewhere.toList.drop s.elsewhere.size
  (result, { after with written := after.written ++ after.subscriber.write events })

def define (s : Session) (key : Nat) (d : Definition) : Session :=
  { s with
    definitions :=
      (s.definitions ++ List.replicate (key + 1 - s.definitions.length) Definition.blank).set key d }

end Session

namespace Request

def onWorld {α : Type} (w : WorldName)
    (f : Session → Registry Closure → Thread Store → α × Registry Closure × Thread Store) :
    Request α := do
  let s ← get
  let (a, registry, thread) := f s (s.world w) s.thread
  set ({ s with thread }.setWorld w registry)
  return a

def orProblem {α : Type} (result : Except Abort α) : Request α :=
  match result with
  | .ok a => pure a
  | .error e => throw (.ofAbort e)

def bridge (b : String) : Request (Bridge Closure) := do
  match (← get).bridges[b]? with
  | some bridge => pure bridge
  | none => throw .noSuchBridge

def setBridge (b : String) (bridge : Bridge Closure) : Request Unit :=
  modify fun s => { s with bridges := s.bridges.insert b bridge }

/-- An invocation of a bridge, by its place in the list of invocations or by its identifier. -/
inductive InvocationRef where
  | index (i : Nat)
  | id (s : String)

/-- The identifier that is meant. A place beyond the end of the list has the identifier `?`. -/
def InvocationRef.resolve (bridge : Bridge Closure) : InvocationRef → String
  | index i => (bridge.invocations[i]?.map Invocation.id).getD "?"
  | id s => s

end Request

end Exemplar

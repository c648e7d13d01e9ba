import Exemplar.Registry.Inspect
import Exemplar.Session.Basic

namespace Exemplar.Request

structure RootView where
  name : String
  compiled : Bool
  compilations : Nat

/-- The log so far, which is empty afterwards. -/
def takeLog : Request (List String) := do
  let lines := (← get).thread.user.log
  modify fun s => { s with thread := { s.thread with user := { s.thread.user with log := #[] } } }
  return lines.toList

def worldSize (w : WorldName) : Request Nat := return ((← get).world w).size

def slot (w : WorldName) (key : Nat) : Request (Slot Closure) := do
  match ← onWorld w fun s r t => r.rootFor (s.spec key) t with
  | .ok slot => pure slot
  | .error payload => throw (.panicked payload)

def root (w : WorldName) (key : Nat) : Request RootView := do
  let slot ← slot w key
  return ⟨slot.name, slot.isCompiled, slot.compilations⟩

def sameRoot (w : WorldName) (key other : Nat) : Request Bool := do
  let _ ← slot w key
  let _ ← slot w other
  return key == other

def tree (w : WorldName) (key : Nat) : Request (Group Closure) := do
  orProblem (← onWorld w fun s r t => r.firstUse (s.spec key) t)

def group (w : WorldName) (key : Nat) (path : List Nat) : Request (Group Closure) := do
  match (← tree w key).at? path with
  | some g => pure g
  | none => throw .noSuchGroup

/-- The number of examples of a spec, and whether its tree is the one kept under a name. The tree may
be kept under a name itself. -/
def compile (w : WorldName) (key : Nat) (sameAs keepAs : Option String) :
    Request (Nat × Option Bool) := do
  let tree ← tree w key
  let identity : TreeIdentity := ⟨w, key⟩
  let kept := (← get).kept
  let same := sameAs.map fun name => kept[name]? == some identity
  if let some name := keepAs then
    modify fun s => { s with kept := s.kept.insert name identity }
  return (tree.exampleCount, same)

/-- What several threads see that ask for a spec at once: whether all of them get one outcome, how
often the spec was compiled, and how many specs the registry knows. -/
structure ThreadsView where
  same : Bool
  compilations : Nat
  size : Nat

/-- Lets `n` threads ask for a spec at once. The first of them compiles it and all get what it got, so
one asking stands for all. What they do happens away from the session's thread. -/
def threads (w : WorldName) (key n : Nat) : Request ThreadsView := do
  let s ← get
  if 0 < n then
    let (result, registry, thread) :=
      (s.world w).firstUse (s.spec key) { s.thread with panicSite := none, trace := s.elsewhere }
    set
      ({ s with
          thread := { s.thread with user := thread.user }
          elsewhere := thread.trace }.setWorld w registry)
    if let .error (.panicked payload) := result then
      throw (.panicked payload)
  let slot ← slot w key
  return ⟨true, slot.compilations, (← get).world w |>.size⟩

def inspectRoot (w : WorldName) (key : Nat) : Request Text.Inspection := do
  let slot ← slot w key
  return slot.inspect

end Exemplar.Request

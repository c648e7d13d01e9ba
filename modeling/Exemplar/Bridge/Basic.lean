import Exemplar.Identifier.Allocator
import Exemplar.Identifier.Basic
import Exemplar.Text.Inspection
import Exemplar.Tree.Schedule

/-!
The bridge between a tree and a host: a list of invocations that the host discovers, and a table that
binds each identifier to an example with its hooks. The host says which invocation is current.
-/

namespace Exemplar

open Text (Inspection)

/-- A unit of work that a host can discover. -/
structure Invocation where
  id : String
  spec : String
  index : Nat
  deriving DecidableEq, Repr, Inhabited

structure Bridge (β : Type) where
  spec : String
  separator : String
  /-- In the order of declaration. -/
  invocations : List Invocation
  /-- The latest binding of an identifier comes first. -/
  bindings : List (String × Scheduled β)
  current : Option String

namespace Bridge

variable {β : Type}

open Identifier (Allocator)

/-- Pairs each example with its identifier: the name it bears already, or else the one allocated for
its descriptions. The allocator counts the latter as taken in any case. -/
def identify : Allocator → List (Scheduled β) → List (String × Scheduled β)
  | _, [] => []
  | a, s :: rest =>
    let (allocated, a) := a.allocate (Identifier.ofParts s.subject.chain)
    let named := { s with subject := s.subject.assignName allocated }
    (s.subject.nameAfter allocated, named) :: identify a rest

def listInvocations (spec : String) (entries : List (String × Scheduled β)) : List Invocation :=
  entries.mapIdx fun i entry => ⟨entry.1, spec, i⟩

def ofEntries (spec separator : String) (entries : List (String × Scheduled β)) : Bridge β :=
  ⟨spec, separator, listInvocations spec entries, entries.reverse, none⟩

def entries (g : Group β) : List (String × Scheduled β) := identify .start g.schedule

/-- The bridge over a group, and the group with the names that its examples now bear. -/
def ofGroup (spec separator : String) (g : Group β) : Bridge β × Group β :=
  let entries := entries g
  (ofEntries spec separator entries, g.assignNames (entries.map (·.1)))

def creationEvents (b : Bridge β) : List Event :=
  b.invocations.map (fun i => .invocationGenerated i.spec i.id i.index) ++
    [.invocationsReady b.spec b.invocations.length]

/-- The example, with its hooks, to which an identifier is bound. -/
def resolve (b : Bridge β) (id : String) : Except SpecError (Scheduled β) :=
  match b.bindings.lookup id with
  | some s => .ok s
  | none => .error (.unboundInvocation b.spec id)

def getExample (b : Bridge β) (id : String) : Except SpecError (Example β) :=
  match b.resolve id with
  | .ok s => .ok s.subject
  | .error e => .error e

/-- Says which invocation the host is about to run. -/
def setCurrent (b : Bridge β) (id : String) : Bridge β := { b with current := some id }

def currentId (b : Bridge β) : Except SpecError String :=
  match b.current with
  | some id => .ok id
  | none => .error (.noCurrentInvocation b.spec)

/-- The spec, a colon, and the descriptions from the outermost group down to the example. -/
def displayNameOf (b : Bridge β) (id : String) : Except SpecError String :=
  match b.getExample id with
  | .ok e => .ok (b.spec ++ ": " ++ e.fullDescription b.separator)
  | .error e => .error e

def displayName (b : Bridge β) : Except SpecError String :=
  match b.currentId with
  | .ok id => b.displayNameOf id
  | .error e => .error e

def inspectId (id : String) : Inspection := .tuple "InvocationId" [.text id]

def inspect (b : Bridge β) : Inspection :=
  .record "SpecBridge"
    [("spec", .text b.spec), ("separator", .text b.separator),
      ("invocations", .list (b.invocations.map fun i =>
        .record "Invocation"
          [("id", inspectId i.id), ("spec", .text i.spec), ("index", .count i.index)] true)),
      ("current", .option (b.current.map inspectId))] false

end Bridge

end Exemplar

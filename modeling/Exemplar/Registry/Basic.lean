import Exemplar.Bridge.Basic
import Exemplar.Config.Basic
import Exemplar.Declaration.Builder

/-!
The registry of specs. A spec gets a slot when it is first asked for, its tree is compiled at most
once, and the outcome of that, tree or error, stays in the slot. Slots are never removed.
-/

namespace Exemplar

open Text (Inspection)

variable {β σ : Type}

/-- A spec: a key that tells it from all others, a name, and a declaration. Asking for the name may
panic, and so may the declaration, which does nothing to the builder but declare. All through one use a
spec answers to its name in the same way; the next use may find another. -/
structure Spec (β σ : Type) where
  key : Nat
  name : Except Payload String
  declare : Builder β → Thread σ → Option Payload × Builder β × Thread σ
  grows : ∀ (b : Builder β) (t : Thread σ), b.Grows (declare b t).2.1

/-- The place of a spec in a registry. Its name is the one that the spec had when it got the slot. -/
structure Slot (β : Type) where
  name : String
  compiled : Option (Except SpecError (Group β))
  compilations : Nat

namespace Slot

def idle (name : String) : Slot β := ⟨name, none, 0⟩

def isCompiled (slot : Slot β) : Bool := slot.compiled.isSome

/-- One more run of the declaration is counted. -/
def begin (slot : Slot β) : Slot β := { slot with compilations := slot.compilations + 1 }

def finish (slot : Slot β) (outcome : Except SpecError (Group β)) : Slot β :=
  { slot with compiled := some outcome }

def outcomeOf (name : String) (panic : Option Payload) (b : Builder β) :
    Except SpecError (Group β) :=
  match panic with
  | none => .ok b.finish
  | some payload => .error (.compilation name payload.message)

def outcomeEvent (name : String) : Except SpecError (Group β) → Event
  | .ok tree => .compiled name tree.exampleCount
  | .error e => .compilationFailed name e

/-- Counts a run of the declaration, runs it, and gives the tree, or an error if it panicked. -/
def build (slot : Slot β) (spec : Spec β σ) (t : Thread σ) :
    Except SpecError (Group β) × Slot β × Thread σ :=
  let (panic, b, t) := spec.declare .start (t.emit (.compiling slot.name))
  let outcome := outcomeOf slot.name panic b
  (outcome, slot.begin, t.emit (outcomeEvent slot.name outcome))

/-- The outcome that the slot holds, or else the outcome of compiling now. -/
def compile (slot : Slot β) (spec : Spec β σ) (t : Thread σ) :
    Except SpecError (Group β) × Slot β × Thread σ :=
  match slot.compiled with
  | some outcome => (outcome, slot, t)
  | none =>
    let (outcome, slot, t) := slot.build spec t
    (outcome, slot.finish outcome, t)

def mapTree (slot : Slot β) (f : Group β → Group β) : Slot β :=
  match slot.compiled with
  | some (.ok tree) => { slot with compiled := some (.ok (f tree)) }
  | _ => slot

end Slot

/-- The slots by key, in the order of registration, under a lock. -/
structure Registry (β : Type) where
  slots : List (Nat × Slot β)
  /-- A panic has struck while the lock was held. -/
  poisoned : Bool

/-- Why an operation on a spec gave no result: an error of the engine, or a panic that left it. -/
inductive Abort where
  | failed (e : SpecError)
  | panicked (p : Payload)
  deriving DecidableEq, Repr

namespace Registry

def empty : Registry β := ⟨[], false⟩

instance : Inhabited (Registry β) := ⟨empty⟩

/-- Takes the lock. One that is poisoned gives the slots as an error. -/
def lock (r : Registry β) : Except (List (Nat × Slot β)) (List (Nat × Slot β)) :=
  if r.poisoned then .error r.slots else .ok r.slots

/-- The slots under the lock, poisoned or not: slots are only ever added, so no panic leaves them
unsound. -/
def held (r : Registry β) : List (Nat × Slot β) :=
  match r.lock with
  | .ok slots => slots
  | .error slots => slots

/-- A panic strikes while the lock is held. -/
def poison (r : Registry β) : Registry β := { r with poisoned := true }

/-- The number of specs that were asked for. -/
def size (r : Registry β) : Nat := r.held.length

def isEmpty (r : Registry β) : Bool := r.size == 0

def slot? (r : Registry β) (key : Nat) : Option (Slot β) := r.held.lookup key

def insert (r : Registry β) (key : Nat) (slot : Slot β) : Registry β :=
  { r with slots := r.held ++ [(key, slot)] }

def modify (r : Registry β) (key : Nat) (f : Slot β → Slot β) : Registry β :=
  { r with slots := r.slots.map fun entry => if entry.1 = key then (entry.1, f entry.2) else entry }

/-- The slot of a spec, which is made now if the spec was never asked for. Its name is asked for under
the lock. -/
def rootFor (spec : Spec β σ) (r : Registry β) (t : Thread σ) :
    Except Payload (Slot β) × Registry β × Thread σ :=
  match r.slot? spec.key with
  | some slot => (.ok slot, r, t)
  | none =>
    match spec.name with
    | .error payload => (.error payload, r.poison, t)
    | .ok name =>
      (.ok (.idle name), r.insert spec.key (.idle name), t.emit (.registering name))

/-- The tree of a spec, compiled now if it was never compiled. -/
def firstUse (spec : Spec β σ) (r : Registry β) (t : Thread σ) :
    Except Abort (Group β) × Registry β × Thread σ :=
  match r.rootFor spec t with
  | (.error payload, r, t) => (.error (.panicked payload), r, t)
  | (.ok slot, r, t) =>
    let (outcome, slot, t) := slot.compile spec t
    (outcome.mapError .failed, r.modify spec.key fun _ => slot, t)

/-- The bridge over the group at a path of a spec's tree. Making it names the examples of the tree. -/
def bridgeOver (key : Nat) (name separator : String) (tree : Group β) (path : List Nat)
    (r : Registry β) (t : Thread σ) : Option (Bridge β × Registry β × Thread σ) :=
  match tree.at? path with
  | none => none
  | some g =>
    let (bridge, named) := Bridge.ofGroup name separator g
    some (bridge, r.modify key (·.mapTree (·.updateAt path fun _ => named)),
      t.emitAll bridge.creationEvents)

/-- The bridge over a whole spec, whose tree is compiled now if it was never compiled. -/
def bridgeFor (spec : Spec β σ) (config : Config) (r : Registry β) (t : Thread σ) :
    Except Abort (Bridge β) × Registry β × Thread σ :=
  match r.firstUse spec t with
  | (.error e, r, t) => (.error e, r, t)
  | (.ok tree, r, t) =>
    match spec.name with
    | .error payload => (.error (.panicked payload), r, t)
    | .ok name =>
      let (bridge, named) := Bridge.ofGroup name config.nameSeparator tree
      (.ok bridge, r.modify spec.key (·.mapTree fun _ => named), t.emitAll bridge.creationEvents)

end Registry

end Exemplar

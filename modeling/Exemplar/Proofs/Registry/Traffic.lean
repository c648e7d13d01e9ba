import Exemplar.Proofs.Registry.Declared
import Exemplar.Proofs.Registry.Keys
import Mathlib.Data.Finset.Card
import Mathlib.Data.Finset.Dedup
import Mathlib.Data.List.Basic
import Mathlib.Logic.Function.Basic
import Mathlib.Logic.Relation

/-! Several callers at work on one registry. Each operation is cut into the steps between which other
callers may come in: a slot is found or made, its caller becomes the one that runs the declaration, the
declaration ends, the outcome is read, and the examples of the tree are named one by one. What a
declaration uses of the registry while it runs are steps of other callers. -/

namespace Exemplar

variable {β σ : Type}

/-- What a caller wants of a slot: the tree, or a bridge over the tree. -/
inductive Goal where
  | tree
  | bridge
  deriving DecidableEq, Repr

/-- How far a caller has come. A place is the index of a slot in the registry. -/
inductive Phase (β : Type) where
  | free
  /-- It has got the slot and asks for the outcome of the declaration. -/
  | holds (place : Nat) (goal : Goal)
  /-- It runs the declaration, which is to give this outcome. -/
  | builds (place : Nat) (goal : Goal) (outcome : Except SpecError (Group β))
  /-- It makes a bridge, and so many examples have their names. -/
  | names (place named : Nat)

inductive Occurrence (β : Type) where
  /-- The name of a spec panicked. -/
  | refused (caller key : Nat)
  | asked (caller key place : Nat)
  /-- A caller got the outcome. -/
  | received (caller place : Nat) (outcome : Except SpecError (Group β))
  | bridged (caller place : Nat)

/-- The key of a spec whose slot was given out. -/
def Occurrence.key? : Occurrence β → Option Nat
  | asked _ key _ => some key
  | _ => none

namespace Registry

/-- What became of the declaration of the spec whose slot is at a place. -/
def outcomeAt (r : Registry β) (place : Nat) : Option (Except SpecError (Group β)) :=
  r.slots[place]?.bind fun entry => entry.2.compiled

theorem outcomeAt_of_getElem? {r : Registry β} {place key : Nat} {slot : Slot β}
    (h : r.slots[place]? = some (key, slot)) : r.outcomeAt place = slot.compiled := by
  rw [outcomeAt, h]
  rfl

/-- The registry with the slot at a place changed. -/
def alter (r : Registry β) (place : Nat) (f : Slot β → Slot β) : Registry β :=
  { r with slots := r.slots.modify place (Prod.map id f) }

theorem getElem?_alter (r : Registry β) (place i : Nat) (f : Slot β → Slot β) :
    (r.alter place f).slots[i]? =
      if place = i then r.slots[i]?.map (Prod.map id f) else r.slots[i]? := by
  rw [alter, List.getElem?_modify]
  split <;> simp

theorem keys_alter (r : Registry β) (place : Nat) (f : Slot β → Slot β) :
    (r.alter place f).keys = r.keys := by
  apply List.ext_getElem?
  intro i
  rw [keys, keys, List.getElem?_map, List.getElem?_map, getElem?_alter]
  split
  · rw [Option.map_map]
    rfl
  · rfl

end Registry

/-- A registry and the callers at work on it. -/
structure Traffic (β : Type) where
  registry : Registry β
  phase : Nat → Phase β
  /-- What was noted of the declarations, with the places of their slots. -/
  calls : List (Nat × Declared β)
  /-- Oldest first. -/
  log : List (Occurrence β)

namespace Traffic

/-- Nothing was asked yet. -/
def start : Traffic β := ⟨.empty, fun _ => .free, [], []⟩

def note (w : Traffic β) (o : Occurrence β) : Traffic β := { w with log := w.log ++ [o] }

def enter (w : Traffic β) (caller : Nat) (phase : Phase β) : Traffic β :=
  { w with phase := Function.update w.phase caller phase }

/-- The calls of the declaration of the slot at a place. -/
def callsAt (w : Traffic β) (place : Nat) : List (Declared β) :=
  w.calls.filterMap fun entry => if entry.1 = place then some entry.2 else none

/-- A caller runs the declaration of the slot at a place. -/
def Builds (w : Traffic β) (place caller : Nat) (outcome : Except SpecError (Group β)) : Prop :=
  ∃ goal, w.phase caller = .builds place goal outcome

/-- Nobody runs the declaration of the slot at a place. -/
def Quiet (w : Traffic β) (place : Nat) : Prop := ∀ c outcome, ¬ w.Builds place c outcome

/-- The caller runs the declaration from now on, with this outcome, this slot, and these notes. -/
def begin (w : Traffic β) (caller place : Nat) (goal : Goal)
    (built : Except SpecError (Group β) × Slot β × Thread (σ × List (Declared β))) : Traffic β :=
  { w with
    registry := w.registry.alter place fun _ => built.2.1
    phase := Function.update w.phase caller (.builds place goal built.1)
    calls := w.calls ++ built.2.2.calls.map (place, ·) }

/-- The declaration has ended with an outcome, which is there to be read. -/
def finish (w : Traffic β) (caller place : Nat) (goal : Goal)
    (outcome : Except SpecError (Group β)) : Traffic β :=
  { w with
    registry := w.registry.alter place (·.finish outcome)
    phase := Function.update w.phase caller (.holds place goal) }

/-- The first examples of the tree bear their names, those that had none before. -/
def name (w : Traffic β) (caller place : Nat) (names : List String) : Traffic β :=
  { w with
    registry := w.registry.alter place (·.mapTree (·.assignNames names))
    phase := Function.update w.phase caller (.names place names.length) }

/-- What a caller does with an outcome. An error leaves nothing to be done. -/
def phaseAfter (place : Nat) : Goal → Except SpecError (Group β) → Phase β
  | .bridge, .ok _ => .names place 0
  | _, _ => .free

/-- The next step of a caller. One that has got a slot waits while another runs the declaration. -/
inductive Step (c : Nat) (w : Traffic β) : Traffic β → Prop
  | refuse {σ : Type} {spec : Spec β σ} {t t' : Thread σ} {p : Payload} {r : Registry β}
    (hc : w.phase c = .free) (h : w.registry.rootFor spec t = (.error p, r, t')) :
    Step c w ({ w with registry := r }.note (.refused c spec.key))
  | ask {σ : Type} {spec : Spec β σ} {t t' : Thread σ} {slot : Slot β} {r : Registry β} {place : Nat}
    (goal : Option Goal) (hc : w.phase c = .free)
    (h : w.registry.rootFor spec t = (.ok slot, r, t'))
    (hp : r.slots[place]? = some (spec.key, slot)) :
    Step c w (({ w with registry := r }.enter c (goal.elim .free (.holds place))).note
      (.asked c spec.key place))
  /-- The caller was given the slot before, by itself or by another. -/
  | join {place : Nat} (goal : Goal) (hc : w.phase c = .free) (h : place < w.registry.size) :
    Step c w (w.enter c (.holds place goal))
  | begin {σ : Type} {spec : Spec β σ} (t : Thread σ) {place : Nat} {goal : Goal} {slot : Slot β}
    (hc : w.phase c = .holds place goal) (h : w.registry.slots[place]? = some (spec.key, slot))
    (hs : slot.compiled = none) (hq : w.Quiet place) :
    Step c w (w.begin c place goal (slot.build spec.noting t.noted))
  | finish {place : Nat} {goal : Goal} {outcome : Except SpecError (Group β)}
    (hc : w.phase c = .builds place goal outcome) : Step c w (w.finish c place goal outcome)
  | receive {place key : Nat} {goal : Goal} {slot : Slot β} {outcome : Except SpecError (Group β)}
    (hc : w.phase c = .holds place goal) (h : w.registry.slots[place]? = some (key, slot))
    (hs : slot.compiled = some outcome) :
    Step c w ((w.enter c (phaseAfter place goal outcome)).note (.received c place outcome))
  /-- The name of the spec panics before a bridge is made. -/
  | abandon {σ : Type} {spec : Spec β σ} {place : Nat} {slot : Slot β} {p : Payload}
    (hc : w.phase c = .names place 0) (h : w.registry.slots[place]? = some (spec.key, slot))
    (hn : spec.name = .error p) : Step c w ((w.enter c .free).note (.refused c spec.key))
  | name {place key n : Nat} {slot : Slot β} {tree : Group β} (hc : w.phase c = .names place n)
    (h : w.registry.slots[place]? = some (key, slot)) (hs : slot.compiled = some (.ok tree))
    (hn : n < tree.exampleCount) : Step c w (w.name c place (tree.identifiers.take (n + 1)))
  | bridge {place key : Nat} {slot : Slot β} {tree : Group β}
    (hc : w.phase c = .names place tree.exampleCount)
    (h : w.registry.slots[place]? = some (key, slot)) (hs : slot.compiled = some (.ok tree)) :
    Step c w ((w.enter c .free).note (.bridged c place))

/-- Any number of steps, each by any caller. -/
def Runs : Traffic β → Traffic β → Prop := Relation.ReflTransGen fun w w' => ∃ c, Step c w w'

end Traffic

end Exemplar

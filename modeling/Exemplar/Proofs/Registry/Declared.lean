import Exemplar.Proofs.Bridge.Calls
import Exemplar.Proofs.Registry.Change

namespace Exemplar

variable {β σ ρ ν : Type}

/-- What a call of a declaration ended with. -/
structure Declared (β : Type) where
  panic : Option Payload
  builder : Builder β

/-- The outcome is what the call ended with, but for names that the examples got since. -/
inductive Declared.Gives (d : Declared β) (name : String) : Except SpecError (Group β) → Prop
  | tree {tree : Group β} (h : d.panic = none) (ht : tree.unnamed = d.builder.finish.unnamed) :
    d.Gives name (.ok tree)
  | failed {p : Payload} (h : d.panic = some p) : d.Gives name (.error (.compilation name p.message))

theorem Declared.Gives.congr {d : Declared β} {name : String}
    {outcome outcome' : Except SpecError (Group β)} (h : d.Gives name outcome)
    (hp : Registry.Persists (some outcome) (some outcome')) : d.Gives name outcome' := by
  cases hp with
  | failed => exact h
  | compiled hu =>
    cases h with
    | tree h ht => exact .tree h (hu.trans ht)

theorem Declared.gives_outcomeOf (d : Declared β) (name : String) :
    d.Gives name (Slot.outcomeOf name d.panic d.builder) := by
  rcases h : d.panic with _ | p
  · exact .tree h rfl
  · exact .failed h

/-- Declares as the spec does, and notes each call of the declaration behind those noted before. -/
def Spec.noting (spec : Spec β σ) : Spec β (σ × List (Declared β)) where
  key := spec.key
  name := spec.name
  declare := fun b t =>
    let (panic, b', t') := spec.declare b t.forget
    (panic, b', ⟨(t'.user, t.calls ++ [⟨panic, b'⟩]), t'.panicSite, t'.trace⟩)
  grows := fun b t => spec.grows b t.forget

/-- Calls hooks and bodies as `exec` does, whatever is noted of declarations. -/
def keeping (exec : β → Action σ) : β → Action (σ × List ν) := fun code t =>
  let (ending, t') := exec code t.forget
  (ending, ⟨(t'.user, t.calls), t'.panicSite, t'.trace⟩)

theorem keeping_simulates (exec : β → Action σ) (calls : List ν) :
    Simulates (fun t (t' : Thread (σ × List ν)) => t = t'.forget ∧ t'.calls = calls) exec
      (keeping exec) where
  trace_eq := by
    rintro t t' ⟨rfl, -⟩
    rfl
  withTrace := by
    rintro t t' trace ⟨rfl, h⟩
    exact ⟨rfl, h⟩
  guarded := by
    rintro code t t' ⟨rfl, h⟩
    simp only [guarded, keeping, Thread.forget]
    rcases exec code ⟨t'.user.1, none, t'.trace⟩ with ⟨_ | _, t₁⟩ <;> exact ⟨rfl, rfl, h⟩

namespace Thread

@[simp] theorem calls_noted (t : Thread σ) : (t.noted : Thread (σ × List ν)).calls = [] := rfl

@[simp] theorem forget_emit (t : Thread (σ × List ν)) (e : Event) :
    (t.emit e).forget = t.forget.emit e := rfl

theorem emitAll_noted (t : Thread (σ × List ν)) (es : List Event) :
    (t.emitAll es).forget = t.forget.emitAll es ∧ (t.emitAll es).calls = t.calls := by
  induction es generalizing t with
  | nil => exact ⟨rfl, rfl⟩
  | cons e es ih => exact ih (t.emit e)

end Thread

/-- What a build calls is the declaration, once and with nothing declared before, and what it gives is
what this call ended with. -/
theorem Slot.build_noting (slot : Slot β) (spec : Spec β σ) (t : Thread (σ × List (Declared β))) :
    ∃ (call : Declared β) (t₁ : Thread σ),
      spec.declare .start (t.forget.emit (.compiling slot.name)) = (call.panic, call.builder, t₁) ∧
      call.Gives slot.name (slot.build spec t.forget).1 ∧
      (slot.build spec.noting t).2.2.calls = t.calls ++ [call] ∧
      Paired (Paired fun t t' => t = t'.forget) (slot.build spec t.forget) (slot.build spec.noting t) := by
  rcases hd : spec.declare .start (t.forget.emit (.compiling slot.name)) with ⟨panic, b, t₁⟩
  have hnoting : spec.noting.declare .start (t.emit (.compiling slot.name)) =
      (panic, b, ⟨(t₁.user, t.calls ++ [⟨panic, b⟩]), t₁.panicSite, t₁.trace⟩) := by
    simp only [Spec.noting, Thread.forget_emit, hd]
    rfl
  have hplain : slot.build spec t.forget = (outcomeOf slot.name panic b, slot.begin,
      t₁.emit (outcomeEvent slot.name (outcomeOf slot.name panic b))) := by
    simp only [Slot.build, hd]
  refine ⟨⟨panic, b⟩, t₁, rfl, ?_, ?_, ?_⟩
  · rw [hplain]
    exact Declared.gives_outcomeOf ⟨panic, b⟩ slot.name
  · simp only [Slot.build, hnoting]
    rfl
  · rw [hplain]
    simp only [Slot.build, hnoting]
    exact ⟨rfl, rfl, rfl⟩

/-- No compilation can tell whether its calls are noted. -/
theorem Slot.compile_noting (slot : Slot β) (spec : Spec β σ) (t : Thread (σ × List (Declared β))) :
    Paired (Paired fun t t' => t = t'.forget) (slot.compile spec t.forget)
      (slot.compile spec.noting t) := by
  cases hs : slot.compiled with
  | some outcome =>
    rw [compile_of_some hs, compile_of_some hs]
    exact ⟨rfl, rfl, rfl⟩
  | none =>
    obtain ⟨-, -, -, -, -, houtcome, -, hthread⟩ := slot.build_noting spec t
    rw [compile_of_none hs, compile_of_none hs, houtcome]
    exact ⟨rfl, rfl, hthread⟩

namespace Registry

variable (spec : Spec β σ) (r : Registry β) (t : Thread σ)

/-- To ask for a slot calls no declaration. -/
theorem rootFor_noting : r.rootFor spec.noting t.noted =
    ((r.rootFor spec t).1, (r.rootFor spec t).2.1, (r.rootFor spec t).2.2.noted) := by
  rcases rootFor_cases spec r t with ⟨p, hs, hn, h⟩ | ⟨slot, hs, h⟩ | ⟨name, hs, hn, h⟩
  · have hs' : r.slot? spec.noting.key = none := hs
    have hn' : spec.noting.name = .error p := hn
    rw [h, rootFor, hs', hn']
  · have hs' : r.slot? spec.noting.key = some slot := hs
    rw [h, rootFor, hs']
  · have hs' : r.slot? spec.noting.key = none := hs
    have hn' : spec.noting.name = .ok name := hn
    rw [h, rootFor, hs', hn']
    rfl

theorem firstUse_noting : Paired (Paired fun t t' => t = t'.forget) (r.firstUse spec t)
    (r.firstUse spec.noting t.noted) := by
  have hroot := rootFor_noting spec r t
  rcases h : r.rootFor spec t with ⟨p | slot, r', t'⟩
  · rw [h] at hroot
    rw [firstUse, firstUse, h, hroot]
    exact ⟨rfl, rfl, rfl⟩
  · rw [h] at hroot
    obtain ⟨outcome, x, y, hx, hy, hm⟩ := (slot.compile_noting spec t'.noted).exists_eq
    obtain ⟨slot', u, u', rfl, rfl, rfl⟩ := hm.exists_eq
    have hx' : slot.compile spec t' = (outcome, slot', u'.forget) := hx
    rw [firstUse, firstUse, h, hroot]
    simp only [hx', hy]
    exact ⟨rfl, rfl, rfl⟩

variable {spec r t} {r' : Registry β} {t' : Thread σ}

theorem calls_firstUse_of_error {p : Payload} (h : r.rootFor spec t = (.error p, r', t')) :
    (r.firstUse spec.noting t.noted).2.2.calls = [] := by
  have hroot := rootFor_noting spec r t
  rw [h] at hroot
  rw [firstUse, hroot]
  rfl

/-- What a use calls is what it takes to compile the slot. -/
theorem calls_firstUse_of_ok {slot : Slot β} (h : r.rootFor spec t = (.ok slot, r', t')) :
    (r.firstUse spec.noting t.noted).2.2.calls = (slot.compile spec.noting t'.noted).2.2.calls := by
  have hroot := rootFor_noting spec r t
  rw [h] at hroot
  rw [firstUse, hroot]

variable (spec r t)

/-- Making a bridge calls what it takes to use the spec. -/
theorem bridgeFor_noting (config : Config) :
    Paired (Paired fun t t' => t = t'.forget) (r.bridgeFor spec config t)
      (r.bridgeFor spec.noting config t.noted) ∧
    (r.bridgeFor spec.noting config t.noted).2.2.calls =
      (r.firstUse spec.noting t.noted).2.2.calls := by
  obtain ⟨result, x, y, hx, hy, hm⟩ := (firstUse_noting spec r t).exists_eq
  obtain ⟨r', u, u', rfl, rfl, rfl⟩ := hm.exists_eq
  rw [bridgeFor, bridgeFor, hx, hy]
  cases result with
  | error e => exact ⟨⟨rfl, rfl, rfl⟩, rfl⟩
  | ok tree =>
    have hn : spec.noting.name = spec.name := rfl
    rw [hn]
    cases spec.name with
    | error p => exact ⟨⟨rfl, rfl, rfl⟩, rfl⟩
    | ok name =>
      obtain ⟨hforget, hcalls⟩ :=
        u'.emitAll_noted (Bridge.ofGroup name config.nameSeparator tree).1.creationEvents
      exact ⟨⟨rfl, rfl, hforget.symm⟩, hcalls⟩

/-- Running the examples of a spec calls its declaration where the bridge is made, and not after. -/
theorem runSpecWith_noting (exec : β → Action σ) (recorder : Recorder ρ) (config : Config)
    (host : ρ) :
    (r.runSpecWith (keeping exec) recorder spec.noting config ⟨t.noted, host⟩).2.2.thread.calls =
      (r.bridgeFor spec.noting config t.noted).2.2.calls := by
  rcases h : r.bridgeFor spec.noting config t.noted with ⟨e | bridge, r', t'⟩
  · rw [runSpecWith, h]
  · rw [runSpecWith, h]
    have hstages : StagesPaired (fun u u' => u = u'.forget ∧ u'.calls = t'.calls)
        (⟨t'.forget, host⟩ : Stage σ ρ) ⟨t', host⟩ := ⟨⟨rfl, rfl⟩, rfl⟩
    exact ((keeping_simulates exec t'.calls).runAll bridge recorder hstages).2.1.2

end Registry

end Exemplar

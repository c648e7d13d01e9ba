import Exemplar.Proofs.Bridge.Calls

/-! Where a panic is attributed. User code may raise panics, catch them, and make guarded calls inside
guarded calls, and every panic of it writes to the one slot of its thread. Beside the way such code runs
stands what it comes to, in which there is no slot: a panic that nothing caught has the place where it was
raised. A guarded call gives just that, so the slot carries nothing from one guarded call to another. -/

namespace Exemplar

variable {β σ : Type}

/-- User code, as far as panics go. Code that goes on does so as it sees fit: the rest of it depends on
what it has read, on how the code ended whose panic it caught, or on what a guarded call gave. -/
inductive Code (σ : Type) where
  /-- Returns. -/
  | done (v : Verdict)
  /-- Raises a panic at a place. -/
  | raise (p : Payload) (site : Callsite)
  /-- Reads and changes what code can read and change, and goes on. -/
  | step (change : σ × Trace → σ × Trace) (next : σ × Trace → Code σ)
  /-- Runs code, catches its panic if it panics, and goes on. -/
  | catching (body : Code σ) (next : Ending → Code σ)
  /-- Makes a guarded call and goes on. -/
  | guarding (body : Code σ) (next : Verdict → Code σ)

namespace Thread

/-- What user code can read and change. The slot for the place of a panic is no part of it. -/
def world (t : Thread σ) : σ × Trace := (t.user, t.trace)

/-- A new thread, on which no panic was raised. -/
def ofWorld (w : σ × Trace) : Thread σ := ⟨w.1, none, w.2⟩

end Thread

/-- What code comes to: it returns, or a panic ends it that was raised at a place and not caught. -/
inductive Fate where
  | returned (v : Verdict)
  | raised (p : Payload) (site : Callsite)

namespace Fate

/-- What can be seen of it where a panic is caught: not the place. -/
def ending : Fate → Ending
  | returned v => .returned v
  | raised p _ => .panicked p

/-- What a guarded call should give. -/
def verdict : Fate → Verdict
  | returned v => v
  | raised p site => .error (.located p.message site)

end Fate

namespace Code

/-- Runs on a thread, whose slot gets the place of each panic that is raised. -/
def exec : Code σ → Thread σ → Ending × Thread σ
  | done v, t => (.returned v, t)
  | raise p site, t => (.panicked p, t.notePanic (some site))
  | step change next, t =>
    let w := change t.world
    (next t.world).exec { t with user := w.1, trace := w.2 }
  | catching body next, t =>
    let (ending, t) := body.exec t
    (next ending).exec t
  | guarding body next, t =>
    let (v, t) := guarded body.exec t
    (next v).exec t

/-- What the code comes to, and what it leaves behind. No slot is needed to say so. -/
def fate : Code σ → σ × Trace → Fate × (σ × Trace)
  | done v, w => (.returned v, w)
  | raise p site, w => (.raised p site, w)
  | step change next, w => (next w).fate (change w)
  | catching body next, w =>
    let (f, w) := body.fate w
    (next f.ending).fate w
  | guarding body next, w =>
    let (f, w) := body.fate w
    (next f.verdict).fate w

/-- A run has come to a fate: the thread has been left as it says, and if a panic ended the run, its
place is in the slot. -/
structure ComesTo (r : Ending × Thread σ) (f : Fate × (σ × Trace)) : Prop where
  ending_eq : r.1 = f.1.ending
  world_eq : r.2.world = f.2
  site_eq : ∀ p site, f.1 = .raised p site → r.2.panicSite = some site

/-- A guarded call gives what the fate of its code says. -/
theorem ComesTo.guarded {code : Action σ} {t : Thread σ} {f : Fate × (σ × Trace)}
    (h : ComesTo (code { t with panicSite := none }) f) :
    (guarded code t).1 = f.1.verdict ∧ (guarded code t).2.world = f.2 := by
  obtain ⟨hending, hworld, hsite⟩ := h
  rw [Exemplar.guarded]
  rcases hrun : code { t with panicSite := none } with ⟨ending, t₁⟩
  rw [hrun] at hending hworld hsite
  obtain ⟨f, w⟩ := f
  cases f with
  | returned v =>
    obtain rfl : ending = .returned v := hending
    exact ⟨rfl, hworld⟩
  | raised p site =>
    obtain rfl : ending = .panicked p := hending
    have hslot : t₁.panicSite = some site := hsite p site rfl
    simp only [hslot]
    exact ⟨rfl, hworld⟩

/-- Code comes to its fate on every thread, whatever is in the slot. -/
theorem exec_comesTo (code : Code σ) (t : Thread σ) : ComesTo (code.exec t) (code.fate t.world) := by
  induction code generalizing t with
  | done v => exact ⟨rfl, rfl, nofun⟩
  | raise p site =>
    refine ⟨rfl, rfl, ?_⟩
    rintro p' site' h
    cases h
    rfl
  | step change next ih => exact ih t.world _
  | catching body next ihbody ihnext =>
    obtain ⟨hending, hworld, -⟩ := ihbody t
    show ComesTo ((next (body.exec t).1).exec (body.exec t).2)
      ((next (body.fate t.world).1.ending).fate (body.fate t.world).2)
    rw [← hending, ← hworld]
    exact ihnext _ _
  | guarding body next ihbody ihnext =>
    obtain ⟨hverdict, hworld⟩ :
        (guarded body.exec t).1 = (body.fate t.world).1.verdict ∧
          (guarded body.exec t).2.world = (body.fate t.world).2 :=
      (ihbody { t with panicSite := none }).guarded
    show ComesTo ((next (guarded body.exec t).1).exec (guarded body.exec t).2)
      ((next (body.fate t.world).1.verdict).fate (body.fate t.world).2)
    rw [← hverdict, ← hworld]
    exact ihnext _ _

theorem guarded_exec (code : Code σ) (t : Thread σ) :
    (guarded code.exec t).1 = (code.fate t.world).1.verdict ∧
      (guarded code.exec t).2.world = (code.fate t.world).2 :=
  (code.exec_comesTo { t with panicSite := none }).guarded

end Code

/-- What happens on a thread: a guarded call, code whose panic somebody else catches, or something that
leaves anything in the slot. -/
inductive Turn (σ : Type) where
  | guarded (code : Code σ)
  | unguarded (code : Code σ)
  | leave (site : Option Callsite)

namespace Turn

/-- What the guarded calls give that are made on a thread. -/
def results : List (Turn σ) → Thread σ → List Verdict
  | [], _ => []
  | guarded code :: turns, t =>
    let (v, t) := Exemplar.guarded code.exec t
    v :: results turns t
  | unguarded code :: turns, t => results turns (code.exec t).2
  | leave site :: turns, t => results turns { t with panicSite := site }

/-- What the same guarded calls give if each is made on a new thread. -/
def afresh : List (Turn σ) → σ × Trace → List Verdict
  | [], _ => []
  | guarded code :: turns, w =>
    let (v, t) := Exemplar.guarded code.exec (.ofWorld w)
    v :: afresh turns t.world
  | unguarded code :: turns, w => afresh turns (code.exec (.ofWorld w)).2.world
  | leave _ :: turns, w => afresh turns w

/-- Guarded calls give on one thread what they give on new ones. -/
theorem results_eq_afresh (turns : List (Turn σ)) (t : Thread σ) :
    results turns t = afresh turns t.world := by
  induction turns generalizing t with
  | nil => rfl
  | cons turn turns ih =>
    cases turn with
    | guarded code =>
      obtain ⟨hverdict, hworld⟩ := code.guarded_exec t
      obtain ⟨hverdict', hworld'⟩ := code.guarded_exec (.ofWorld t.world)
      have hhead : (Exemplar.guarded code.exec t).1 = (Exemplar.guarded code.exec (.ofWorld t.world)).1 :=
        hverdict.trans hverdict'.symm
      have htail : (Exemplar.guarded code.exec t).2.world =
          (Exemplar.guarded code.exec (.ofWorld t.world)).2.world := hworld.trans hworld'.symm
      show (Exemplar.guarded code.exec t).1 :: results turns (Exemplar.guarded code.exec t).2 =
        (Exemplar.guarded code.exec (.ofWorld t.world)).1 ::
          afresh turns (Exemplar.guarded code.exec (.ofWorld t.world)).2.world
      rw [ih, hhead, htail]
    | unguarded code =>
      have hworld := (code.exec_comesTo t).world_eq
      have hworld' := (code.exec_comesTo (.ofWorld t.world)).world_eq
      rw [results, afresh, ih, hworld, hworld']
      rfl
    | leave site => exact ih _

end Turn

/-- Linked calls are guarded calls in turn. -/
theorem Call.Linked.results {codeOf : β → Code σ} {calls : List (Call β)} {t t' : Thread σ}
    (h : Call.Linked (fun b => (codeOf b).exec) t calls t') :
    Turn.results (calls.map fun c => .guarded (codeOf c.code)) t = calls.map Call.verdict := by
  induction h with
  | nil => rfl
  | cons hc _ ih =>
    obtain ⟨-, hguarded⟩ := hc
    rw [List.map_cons, List.map_cons, Turn.results, hguarded]
    exact congrArg _ ih

/-- A guarded call gives what its code returned, and it makes an error of a panic that nothing caught,
with the text of the payload and the place where it was raised. Nothing else gets into it, be it of the
history of the thread, of panics that were caught or of guarded calls inside this one; so in every
sequence of guarded calls, and in the run of an example, each gives what it gives on a new thread. -/
theorem Code.attributes_panics :
    (∀ (code : Code σ) (t : Thread σ), (guarded code.exec t).1 = (code.fate t.world).1.verdict) ∧
      (∀ (turns : List (Turn σ)) (t : Thread σ), Turn.results turns t = Turn.afresh turns t.world) ∧
      ∀ (codeOf : β → Code σ) (entry : Scheduled β) (t : Thread σ),
        let exec := fun b => (codeOf b).exec
        let calls := (entry.run (noting exec) t.noted).2.calls
        (entry.run exec t).1 = Call.firstRaised calls ∧ calls.map Call.verdict =
          Turn.afresh (calls.map fun c => .guarded (codeOf c.code)) t.world := by
  refine ⟨fun code t => (code.guarded_exec t).1, Turn.results_eq_afresh, ?_⟩
  intro codeOf entry t exec calls
  obtain ⟨hverdict, hlinked⟩ := entry.run_linked exec t
  exact ⟨hverdict, hlinked.results.symm.trans (Turn.results_eq_afresh _ t)⟩

/-- Neither a panic that was caught before nor one inside a guarded call gives its place to the panic
that ends the code, and none of them gives its place to an error that is returned. -/
example (p q r : Payload) (a b c : Callsite) (t : Thread Unit) :
    let early : Code Unit → Code Unit := fun code =>
      .catching (.raise p a) fun _ => .guarding (.raise q b) fun _ => code
    (guarded (early (.raise r c)).exec t).1 = .error ⟨r.message, some c⟩ ∧
      (guarded (early (.done (.error (.ofMessage "nope")))).exec t).1 = .error ⟨"nope", none⟩ :=
  ⟨rfl, rfl⟩

end Exemplar

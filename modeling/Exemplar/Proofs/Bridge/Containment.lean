import Exemplar.Proofs.Report.Refusal

namespace Exemplar

variable {β σ ρ : Type}

/-- The threads are one up to the place of the latest panic. -/
def Thread.Alike (t t' : Thread σ) : Prop := t.user = t'.user ∧ t.trace = t'.trace

/-- No hook or body gets to see where an earlier panic was raised. -/
theorem alike_simulates (exec : β → Action σ) : Simulates Thread.Alike exec exec where
  trace_eq := fun h => h.2
  withTrace := fun _ h => ⟨h.1, rfl⟩
  guarded := by
    rintro code ⟨user, site, trace⟩ ⟨user', site', trace'⟩ ⟨rfl, rfl⟩
    exact ⟨rfl, rfl, rfl⟩

/-- The stage with no call noted yet. -/
def Stage.noted (s : Stage σ ρ) : Stage (σ × List (Call β)) ρ := ⟨s.thread.noted, s.host⟩

theorem Outcome.settle_fst (recorder : Recorder ρ) (o : Outcome) (s : Stage σ ρ) :
    (o.settle recorder s).1 = .ok o ∨
      ∃ f e, o = .failed f ∧ (o.settle recorder s).1 = .error (.report e) := by
  cases o with
  | passed => exact .inl rfl
  | pending => exact .inl rfl
  | failed f =>
    rw [settle]
    rcases s.report recorder f with ⟨e | _, s'⟩
    · exact .inr ⟨f, e, rfl, rfl⟩
    · exact .inl rfl

namespace Scheduled

variable {entry : Scheduled β} {calls : List (Call β)}

/-- An example fails exactly if one of its calls raised. -/
theorem endOf_eq_failed_iff (h : entry.Called calls) :
    (∃ f, entry.endOf calls = .failed f) ↔ ∃ e, Call.firstRaised calls = .error e := by
  unfold Called at h
  unfold endOf
  cases hb : entry.subject.body with
  | none =>
    rw [hb] at h
    subst h
    simp [Call.firstRaised]
  | some body =>
    cases hv : Call.firstRaised calls with
    | ok _ => simp
    | error e => simp

/-- What the run of an example gives whose hooks and body were called: it failed exactly if one of these
calls raised, a panic is a way to raise, and only the recorder may make an error of the run of it. -/
structure Contains (entry : Scheduled β) (calls : List (Call β)) (result : Except SpecError Outcome) :
    Prop where
  called : entry.Called calls
  failed_iff : (∃ f, entry.endOf calls = .failed f) ↔ ∃ e, Call.firstRaised calls = .error e
  of_panic : ∀ c ∈ calls, ∀ p, c.ending = .panicked p → ∃ f, entry.endOf calls = .failed f
  result_eq : result = .ok (entry.endOf calls) ∨
    ∃ f e, entry.endOf calls = .failed f ∧ result = .error (.report e)

theorem Called.contains (h : entry.Called calls) {result : Except SpecError Outcome}
    (hr : result = .ok (entry.endOf calls) ∨
      ∃ f e, entry.endOf calls = .failed f ∧ result = .error (.report e)) :
    entry.Contains calls result :=
  ⟨h, endOf_eq_failed_iff h,
    fun _ hc _ hp => (endOf_eq_failed_iff h).mpr (Call.firstRaised_of_panic hc hp), hr⟩

end Scheduled

namespace Bridge

variable (exec : β → Action σ) (b : Bridge β)

/-- What became of invocations that had their turns: a report on each, by the outcome of its own example,
and the calls of each. -/
structure Turns (ids : List String) (reports : List ExampleReport) (called : List (List (Call β))) :
    Prop where
  length_eq : reports.length = ids.length
  turn : ∀ (i : Nat) (id : String) (entry : Scheduled β), ids[i]? = some id →
    b.resolve id = .ok entry → ∃ calls, called[i]? = some calls ∧
      entry.Contains calls (.ok (entry.endOf calls)) ∧
      reports[i]? = some (.ofOutcome
        (b.spec ++ ": " ++
          b.separator.intercalate (entry.subject.ancestry ++ [entry.subject.description]))
        id (entry.endOf calls))

variable {b} in
theorem Turns.cons {ids : List String} {reports : List ExampleReport}
    {called : List (List (Call β))} (h : b.Turns ids reports called) {id : String}
    {entry : Scheduled β} (hentry : b.resolve id = .ok entry) {calls : List (Call β)}
    (hcalled : entry.Called calls) :
    b.Turns (id :: ids) (.ofOutcome
        (b.spec ++ ": " ++
          b.separator.intercalate (entry.subject.ancestry ++ [entry.subject.description]))
        id (entry.endOf calls) :: reports) (calls :: called) := by
  refine ⟨congrArg (· + 1) h.length_eq, ?_⟩
  intro i id' entry' hi hentry'
  cases i with
  | zero =>
    obtain rfl : id = id' := Option.some.inj hi
    obtain rfl : entry = entry' := Except.ok.inj (hentry.symm.trans hentry')
    exact ⟨calls, rfl, hcalled.contains (.inl rfl), rfl⟩
  | succ i => exact h.turn i id' entry' hi hentry'

end Bridge

end Exemplar

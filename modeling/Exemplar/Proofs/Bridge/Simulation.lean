import Exemplar.Proofs.Report.Summary

/-! Runs that cannot be told apart. All that a run sees of a hook or body is what `guarded` makes of
it. Two ways to call hooks and bodies that agree in this, on threads that belong together, give the
same outcomes, the same summary and the same calls of the recorder. -/

namespace Exemplar

variable {α β σ σ' ρ τ τ' : Type}

/-- The results are the same and the states belong together. -/
def Paired (R : τ → τ' → Prop) (x : α × τ) (y : α × τ') : Prop := x.1 = y.1 ∧ R x.2 y.2

theorem Paired.exists_eq {R : τ → τ' → Prop} {x : α × τ} {y : α × τ'} (h : Paired R x y) :
    ∃ a u v, x = (a, u) ∧ y = (a, v) ∧ R u v :=
  ⟨x.1, x.2, y.2, rfl, Prod.ext h.1.symm rfl, h.2⟩

/-- On threads that belong together `guarded` sees no difference between the two ways to call hooks and
bodies, and the threads stay together. -/
structure Simulates (R : Thread σ → Thread σ' → Prop) (exec : β → Action σ) (exec' : β → Action σ') :
    Prop where
  trace_eq : ∀ {t t'}, R t t' → t.trace = t'.trace
  withTrace : ∀ {t t'} (trace : Trace), R t t' → R { t with trace } { t' with trace }
  guarded : ∀ (code : β) {t t'}, R t t' → Paired R (guarded (exec code) t) (guarded (exec' code) t')

/-- The threads belong together and the hosts are in one state. -/
def StagesPaired (R : Thread σ → Thread σ' → Prop) (s : Stage σ ρ) (s' : Stage σ' ρ) : Prop :=
  R s.thread s'.thread ∧ s.host = s'.host

namespace Simulates

variable {R : Thread σ → Thread σ' → Prop} {exec : β → Action σ} {exec' : β → Action σ'}

theorem emit (h : Simulates R exec exec') {t : Thread σ} {t' : Thread σ'} (ht : R t t') (e : Event) :
    R (t.emit e) (t'.emit e) := by
  have hpush := h.withTrace (t.trace.push e) ht
  rw [Thread.emit, Thread.emit, ← h.trace_eq ht]
  exact hpush

theorem runBefore (h : Simulates R exec exec') (hooks : List β) {t : Thread σ} {t' : Thread σ'}
    (ht : R t t') : Paired R (runBefore exec hooks t) (runBefore exec' hooks t') := by
  induction hooks generalizing t t' with
  | nil => exact ⟨rfl, ht⟩
  | cons hook hooks ih =>
    obtain ⟨v, t₁, t₁', hx, hy, ht₁⟩ := (h.guarded hook ht).exists_eq
    rw [Exemplar.runBefore, Exemplar.runBefore, hx, hy]
    cases v with
    | ok _ => exact ih ht₁
    | error e => exact ⟨rfl, ht₁⟩

theorem runAfter (h : Simulates R exec exec') (hooks : List β) (v : Verdict) {t : Thread σ}
    {t' : Thread σ'} (ht : R t t') :
    Paired R (runAfter exec hooks v t) (runAfter exec' hooks v t') := by
  induction hooks generalizing v t t' with
  | nil => exact ⟨rfl, ht⟩
  | cons hook hooks ih =>
    obtain ⟨hw, ht₁⟩ := h.guarded hook ht
    simp only [Exemplar.runAfter, ← hw]
    exact ih _ ht₁

theorem runBody (h : Simulates R exec exec') (entry : Scheduled β) (v : Verdict) {t : Thread σ}
    {t' : Thread σ'} (ht : R t t') :
    Paired R (entry.runBody exec v t) (entry.runBody exec' v t') := by
  cases v with
  | error e => exact ⟨rfl, ht⟩
  | ok _ =>
    simp only [Scheduled.runBody]
    cases entry.subject.body with
    | none => exact ⟨rfl, ht⟩
    | some body => exact h.guarded body ht

theorem run (h : Simulates R exec exec') (entry : Scheduled β) {t : Thread σ} {t' : Thread σ'}
    (ht : R t t') : Paired R (entry.run exec t) (entry.run exec' t') := by
  obtain ⟨hv, ht₁⟩ := h.runBefore entry.before ht
  obtain ⟨hw, ht₂⟩ := h.runBody entry (Exemplar.runBefore exec entry.before t).1 ht₁
  rw [hv] at hw ht₂
  simp only [Scheduled.run, hv, hw]
  exact h.runAfter entry.after _ ht₂

theorem outcome (h : Simulates R exec exec') (entry : Scheduled β) {t : Thread σ} {t' : Thread σ'}
    (ht : R t t') : entry.outcome exec t = entry.outcome exec' t' := by
  rw [Scheduled.outcome, Scheduled.outcome, (h.run entry ht).1]

theorem executed (h : Simulates R exec exec') (b : Bridge β) (id : String) (entry : Scheduled β)
    {s : Stage σ ρ} {s' : Stage σ' ρ} (hs : StagesPaired R s s') :
    StagesPaired R (b.executed exec id entry s) (b.executed exec' id entry s') := by
  rw [Bridge.executed, Bridge.executed]
  cases entry.subject.body with
  | none => exact ⟨h.emit hs.1 _, hs.2⟩
  | some body =>
    obtain ⟨v, t, t', hx, hy, ht⟩ := (h.run entry (h.emit hs.1 (.exampleRunning b.spec id))).exists_eq
    simp only [hx, hy]
    cases v with
    | ok _ => exact ⟨h.emit ht _, hs.2⟩
    | error e => exact ⟨h.emit ht _, hs.2⟩

theorem report (h : Simulates R exec exec') (recorder : Recorder ρ) (f : Failure) {s : Stage σ ρ}
    {s' : Stage σ' ρ} (hs : StagesPaired R s s') :
    Paired (StagesPaired R) (s.report recorder f) (s'.report recorder f) := by
  simp only [Stage.report, ← hs.2, ← h.trace_eq hs.1]
  exact ⟨rfl, h.withTrace _ hs.1, rfl⟩

theorem settle (h : Simulates R exec exec') (recorder : Recorder ρ) (o : Outcome) {s : Stage σ ρ}
    {s' : Stage σ' ρ} (hs : StagesPaired R s s') :
    Paired (StagesPaired R) (o.settle recorder s) (o.settle recorder s') := by
  cases o with
  | passed => exact ⟨rfl, hs⟩
  | pending => exact ⟨rfl, hs⟩
  | failed f =>
    obtain ⟨a, s₁, s₁', hx, hy, hr⟩ := (h.report recorder f hs).exists_eq
    rw [Outcome.settle, Outcome.settle, hx, hy]
    cases a with
    | ok _ => exact ⟨rfl, hr⟩
    | error e => exact ⟨rfl, hr⟩

/-- Running an invocation. -/
theorem runBridge (h : Simulates R exec exec') (b : Bridge β) (recorder : Recorder ρ) (id : String)
    {s : Stage σ ρ} {s' : Stage σ' ρ} (hs : StagesPaired R s s') :
    Paired (StagesPaired R) (b.run exec recorder id s) (b.run exec' recorder id s') := by
  cases hr : b.resolve id with
  | error e =>
    simp only [Bridge.run, hr]
    exact ⟨rfl, hs⟩
  | ok entry =>
    rw [b.run_of_resolve exec hr, b.run_of_resolve exec' hr, h.outcome entry (h.emit hs.1 _)]
    exact h.settle recorder _ (h.executed b id entry hs)

theorem runNext (h : Simulates R exec exec') (b : Bridge β) (recorder : Recorder ρ) (id : String)
    (summary : Summary) {s : Stage σ ρ} {s' : Stage σ' ρ} (hs : StagesPaired R s s') :
    Paired (StagesPaired R) (b.runNext exec recorder id summary s)
      (b.runNext exec' recorder id summary s') := by
  have hrun := h.runBridge (b.setCurrent id) recorder id hs
  simp only [Bridge.runNext, Bridge.runCurrent, Bridge.currentId, Bridge.setCurrent] at hrun ⊢
  split
  · exact ⟨rfl, hs⟩
  · obtain ⟨o, s₁, s₁', hx, hy, hs₁⟩ := hrun.exists_eq
    rw [hx, hy]
    cases o with
    | error e => exact ⟨rfl, hs₁⟩
    | ok o => exact ⟨rfl, hs₁⟩

theorem runEach (h : Simulates R exec exec') (b : Bridge β) (recorder : Recorder ρ)
    (ids : List String) (summary : Summary) {s : Stage σ ρ} {s' : Stage σ' ρ}
    (hs : StagesPaired R s s') :
    Paired (StagesPaired R) (b.runEach exec recorder ids summary s)
      (b.runEach exec' recorder ids summary s') := by
  induction ids generalizing summary s s' with
  | nil => exact ⟨rfl, hs⟩
  | cons id ids ih =>
    obtain ⟨result, s₁, s₁', hx, hy, hs₁⟩ := (h.runNext b recorder id summary hs).exists_eq
    rw [Bridge.runEach, Bridge.runEach, hx, hy]
    cases result with
    | error e => exact ⟨rfl, hs₁⟩
    | ok summary => exact ih summary hs₁

theorem runAll (h : Simulates R exec exec') (b : Bridge β) (recorder : Recorder ρ) {s : Stage σ ρ}
    {s' : Stage σ' ρ} (hs : StagesPaired R s s') :
    Paired (StagesPaired R) (b.runAll exec recorder s) (b.runAll exec' recorder s') := by
  obtain ⟨result, s₁, s₁', hx, hy, hs₁⟩ :=
    (h.runEach b recorder (b.invocations.map Invocation.id) (.start b.spec) hs).exists_eq
  rw [Bridge.runAll, Bridge.runAll, hx, hy]
  cases result with
  | error e => exact ⟨rfl, hs₁⟩
  | ok summary => exact ⟨rfl, h.emit hs₁.1 _, hs₁.2⟩

end Simulates

end Exemplar

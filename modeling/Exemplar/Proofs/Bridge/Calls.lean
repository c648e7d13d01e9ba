import Exemplar.Proofs.Bridge.Simulation

/-! The calls of hooks and bodies. A run is repeated with a note of each call, which no run can tell
from the run itself. The notes say which code an example called, in which order, and how each call
ended; the verdict on the example is that of the first call that raised. -/

namespace Exemplar

variable {β σ ρ : Type}

/-- A call of a hook or body: what was called, how it ended, and where the latest panic raised during
the call was raised. -/
structure Call (β : Type) where
  code : β
  ending : Ending
  site : Option Callsite

/-- The first of two verdicts that is an error. -/
def Verdict.andThen (v w : Verdict) : Verdict :=
  match v with
  | .ok () => w
  | .error e => .error e

theorem Verdict.andThen_assoc (u v w : Verdict) :
    Verdict.andThen (Verdict.andThen u v) w = Verdict.andThen u (Verdict.andThen v w) := by
  cases u <;> rfl

theorem Verdict.andThen_ok (v : Verdict) : Verdict.andThen v (.ok ()) = v := by
  cases v <;> rfl

namespace Call

/-- What a call comes to: a panic is an error at the place where it was raised. -/
def verdict (c : Call β) : Verdict :=
  match c.ending with
  | .returned v => v
  | .panicked p => .error ⟨p.message, c.site⟩

/-- The verdict of the first call that raised. -/
def firstRaised : List (Call β) → Verdict
  | [] => .ok ()
  | c :: calls => Verdict.andThen c.verdict (firstRaised calls)

theorem firstRaised_append (calls more : List (Call β)) :
    firstRaised (calls ++ more) = Verdict.andThen (firstRaised calls) (firstRaised more) := by
  induction calls with
  | nil => rfl
  | cons c calls ih => rw [List.cons_append, firstRaised, firstRaised, ih, Verdict.andThen_assoc]

theorem firstRaised_eq_ok_iff {calls : List (Call β)} :
    firstRaised calls = .ok () ↔ ∀ c ∈ calls, c.verdict = .ok () := by
  induction calls with
  | nil => simp [firstRaised]
  | cons c calls ih =>
    rw [firstRaised, List.forall_mem_cons, ← ih]
    cases c.verdict <;> simp [Verdict.andThen]

theorem firstRaised_eq_error_iff {calls : List (Call β)} {e : ExampleError} :
    firstRaised calls = .error e ↔ ∃ earlier c later, calls = earlier ++ c :: later ∧
      (∀ d ∈ earlier, d.verdict = .ok ()) ∧ c.verdict = .error e := by
  constructor
  · intro h
    induction calls with
    | nil => cases h
    | cons c calls ih =>
      rw [firstRaised] at h
      cases hv : c.verdict with
      | error e' =>
        rw [hv] at h
        exact ⟨[], c, calls, rfl, by simp, hv.trans h⟩
      | ok _ =>
        rw [hv] at h
        obtain ⟨earlier, d, later, rfl, hearlier, hd⟩ := ih h
        exact ⟨c :: earlier, d, later, rfl, List.forall_mem_cons.mpr ⟨hv, hearlier⟩, hd⟩
  · rintro ⟨earlier, c, later, rfl, hearlier, hc⟩
    rw [firstRaised_append, firstRaised_eq_ok_iff.mpr hearlier, firstRaised, hc]
    rfl

/-- Codes were called in turn, and none behind one that raised. -/
inductive Until : List β → List (Call β) → Prop
  | nil : Until [] []
  | raised {c : Call β} {e : ExampleError} (h : c.verdict = .error e) (codes : List β) :
    Until (c.code :: codes) [c]
  | passed {c : Call β} {codes : List β} {calls : List (Call β)} (h : c.verdict = .ok ())
    (rest : Until codes calls) : Until (c.code :: codes) (c :: calls)

/-- One code that may be there is called if it is. -/
theorem Until.of_toList {code : Option β} {calls : List (Call β)}
    (h : calls.map Call.code = code.toList) : Until code.toList calls := by
  cases code with
  | none =>
    rw [List.map_eq_nil_iff.mp h]
    exact .nil
  | some code =>
    obtain ⟨c, rfl, rfl⟩ := List.map_eq_singleton_iff.mp h
    cases hv : c.verdict with
    | ok _ => exact .passed hv .nil
    | error e => exact .raised hv []

/-- If nothing raised, more codes may be called. -/
theorem Until.append {codes more : List β} {calls calls' : List (Call β)} (h : Until codes calls)
    (hok : firstRaised calls = .ok ()) (h' : Until more calls') :
    Until (codes ++ more) (calls ++ calls') := by
  induction h with
  | nil => exact h'
  | raised hc codes =>
    rw [firstRaised, hc] at hok
    cases hok
  | passed hc _ ih =>
    rw [firstRaised, hc] at hok
    exact .passed hc (ih hok)

/-- If a call raised, no further codes are called. -/
theorem Until.append_of_error {codes : List β} {calls : List (Call β)} {e : ExampleError}
    (h : Until codes calls) (he : firstRaised calls = .error e) (more : List β) :
    Until (codes ++ more) calls := by
  induction h with
  | nil => cases he
  | raised hc codes => exact .raised hc (codes ++ more)
  | passed hc _ ih =>
    rw [firstRaised, hc] at he
    exact .passed hc (ih he)

/-- A call takes a thread from one state to the next, guarded, and ends as it is noted. -/
structure Made (exec : β → Action σ) (c : Call β) (t t' : Thread σ) : Prop where
  ending_eq : (exec c.code { t with panicSite := none }).1 = c.ending
  guarded_eq : guarded (exec c.code) t = (c.verdict, t')

/-- Calls are made one after the other, each on the thread as the one before it has left it. -/
inductive Linked (exec : β → Action σ) : Thread σ → List (Call β) → Thread σ → Prop
  | nil (t : Thread σ) : Linked exec t [] t
  | cons {c : Call β} {calls : List (Call β)} {t t₁ t' : Thread σ} (h : c.Made exec t t₁)
    (rest : Linked exec t₁ calls t') : Linked exec t (c :: calls) t'

theorem Linked.append {exec : β → Action σ} {calls more : List (Call β)} {t t₁ t' : Thread σ}
    (h : Linked exec t calls t₁) (h' : Linked exec t₁ more t') :
    Linked exec t (calls ++ more) t' := by
  induction h with
  | nil => exact h'
  | cons hc _ ih => exact .cons hc (ih h')

theorem firstRaised_of_panic {calls : List (Call β)} {c : Call β} (hc : c ∈ calls) {p : Payload}
    (hp : c.ending = .panicked p) : ∃ e, firstRaised calls = .error e := by
  induction calls with
  | nil => exact absurd hc List.not_mem_nil
  | cons d calls ih =>
    rw [firstRaised]
    cases hd : d.verdict with
    | error e => exact ⟨e, rfl⟩
    | ok _ =>
      rcases List.mem_cons.mp hc with rfl | hc
      · simp [verdict, hp] at hd
      · exact ih hc

end Call

/-- Calls hooks and bodies as `exec` does, and notes each call behind those noted before. -/
def noting (exec : β → Action σ) : β → Action (σ × List (Call β)) := fun code t =>
  let (ending, t') := exec code ⟨t.user.1, t.panicSite, t.trace⟩
  (ending, ⟨(t'.user, t.user.2 ++ [⟨code, ending, t'.panicSite⟩]), t'.panicSite, t'.trace⟩)

namespace Thread

variable {ν : Type}

/-- The thread with nothing noted yet. -/
def noted (t : Thread σ) : Thread (σ × List ν) := ⟨(t.user, []), t.panicSite, t.trace⟩

/-- The thread without the notes. -/
def forget (t : Thread (σ × List ν)) : Thread σ := ⟨t.user.1, t.panicSite, t.trace⟩

def calls (t : Thread (σ × List ν)) : List ν := t.user.2

end Thread

/-- No run can tell whether its calls are noted. -/
theorem noting_simulates (exec : β → Action σ) :
    Simulates (fun t t' => t = t'.forget) exec (noting exec) where
  trace_eq := by
    rintro t t' rfl
    rfl
  withTrace := by
    rintro t t' trace rfl
    rfl
  guarded := by
    rintro code t t' rfl
    simp only [guarded, noting, Thread.forget]
    rcases exec code ⟨t'.user.1, none, t'.trace⟩ with ⟨_ | _, t₁⟩ <;> exact ⟨rfl, rfl⟩

/-- One call is made and noted, with what `guarded` makes of it. -/
theorem guarded_noting (exec : β → Action σ) (code : β) (t : Thread (σ × List (Call β))) :
    ∃ (c : Call β) (t' : Thread (σ × List (Call β))), c.code = code ∧
      guarded (noting exec code) t = (c.verdict, t') ∧ t'.calls = t.calls ++ [c] ∧
      c.Made exec t.forget t'.forget := by
  rcases hrun : exec code ⟨t.user.1, none, t.trace⟩ with ⟨v | p, t₁⟩
  · refine ⟨⟨code, .returned v, t₁.panicSite⟩, ⟨(t₁.user, t.calls ++ [_]), t₁.panicSite, t₁.trace⟩, rfl,
      ?_, rfl, ?_, ?_⟩
    · simp only [guarded, noting, hrun]
      rfl
    · exact congrArg Prod.fst hrun
    · simp only [guarded, Thread.forget, hrun]
      rfl
  · refine ⟨⟨code, .panicked p, t₁.panicSite⟩, ⟨(t₁.user, t.calls ++ [_]), none, t₁.trace⟩, rfl,
      ?_, rfl, ?_, ?_⟩
    · simp only [guarded, noting, hrun]
      rfl
    · exact congrArg Prod.fst hrun
    · simp only [guarded, Thread.forget, hrun]
      rfl

/-- The hooks before an example are called in order, and not beyond the first that raises. -/
theorem runBefore_noting (exec : β → Action σ) (hooks : List β) (t : Thread (σ × List (Call β))) :
    ∃ (calls : List (Call β)) (t' : Thread (σ × List (Call β))), Call.Until hooks calls ∧
      runBefore (noting exec) hooks t = (Call.firstRaised calls, t') ∧
      t'.calls = t.calls ++ calls ∧ Call.Linked exec t.forget calls t'.forget := by
  induction hooks generalizing t with
  | nil => exact ⟨[], t, .nil, rfl, (List.append_nil _).symm, .nil _⟩
  | cons hook hooks ih =>
    obtain ⟨c, t₁, rfl, hguarded, hcall, hmade⟩ := guarded_noting exec hook t
    rw [runBefore, hguarded]
    cases hv : c.verdict with
    | error e =>
      refine ⟨[c], t₁, .raised hv hooks, ?_, hcall, .cons hmade (.nil _)⟩
      rw [Call.firstRaised, hv]
      rfl
    | ok _ =>
      obtain ⟨calls, t', huntil, hrest, hcalls, hlinked⟩ := ih t₁
      refine ⟨c :: calls, t', .passed hv huntil, ?_, ?_, .cons hmade hlinked⟩
      · rw [Call.firstRaised, hv]
        exact hrest
      · rw [hcalls, hcall, List.append_assoc]
        rfl

/-- The hooks after an example are all called, whatever raised before. -/
theorem runAfter_noting (exec : β → Action σ) (hooks : List β) (v : Verdict)
    (t : Thread (σ × List (Call β))) :
    ∃ (calls : List (Call β)) (t' : Thread (σ × List (Call β))), calls.map Call.code = hooks ∧
      runAfter (noting exec) hooks v t = (Verdict.andThen v (Call.firstRaised calls), t') ∧
      t'.calls = t.calls ++ calls ∧ Call.Linked exec t.forget calls t'.forget := by
  induction hooks generalizing v t with
  | nil =>
    refine ⟨[], t, rfl, ?_, (List.append_nil _).symm, .nil _⟩
    rw [Call.firstRaised, Verdict.andThen_ok]
    rfl
  | cons hook hooks ih =>
    obtain ⟨c, t₁, hcode, hguarded, hcall, hmade⟩ := guarded_noting exec hook t
    obtain ⟨calls, t', hcodes, hrest, hcalls, hlinked⟩ := ih (Verdict.andThen v c.verdict) t₁
    refine ⟨c :: calls, t', ?_, ?_, ?_, .cons hmade hlinked⟩
    · rw [List.map_cons, hcode, hcodes]
    · rw [Call.firstRaised, ← Verdict.andThen_assoc, ← hrest, runAfter, hguarded]
      rfl
    · rw [hcalls, hcall, List.append_assoc]
      rfl

namespace Scheduled

/-- The body is called if nothing has raised before and there is one. -/
theorem runBody_noting (exec : β → Action σ) (entry : Scheduled β) (v : Verdict)
    (t : Thread (σ × List (Call β))) :
    ∃ (calls : List (Call β)) (t' : Thread (σ × List (Call β))),
      (v = .ok () → calls.map Call.code = entry.subject.body.toList) ∧ (v ≠ .ok () → calls = []) ∧
      entry.runBody (noting exec) v t = (Verdict.andThen v (Call.firstRaised calls), t') ∧
      t'.calls = t.calls ++ calls ∧ Call.Linked exec t.forget calls t'.forget := by
  cases v with
  | error e => exact ⟨[], t, nofun, fun _ => rfl, rfl, (List.append_nil _).symm, .nil _⟩
  | ok _ =>
    simp only [runBody]
    cases entry.subject.body with
    | none => exact ⟨[], t, fun _ => rfl, fun _ => rfl, rfl, (List.append_nil _).symm, .nil _⟩
    | some body =>
      obtain ⟨c, t', rfl, hguarded, hcall, hmade⟩ := guarded_noting exec body t
      refine ⟨[c], t', fun _ => rfl, fun h => absurd rfl h, ?_, hcall, .cons hmade (.nil _)⟩
      rw [Call.firstRaised, Call.firstRaised, Verdict.andThen_ok]
      exact hguarded

/-- A run calls the hooks before the example up to the first that raises, the body if none did, and
every hook after it. The verdict is that of the first of these calls that raised. -/
theorem run_phases (exec : β → Action σ) (entry : Scheduled β) (t : Thread (σ × List (Call β))) :
    ∃ (before body after : List (Call β)) (t' : Thread (σ × List (Call β))),
      Call.Until entry.before before ∧
      (Call.firstRaised before = .ok () → body.map Call.code = entry.subject.body.toList) ∧
      (Call.firstRaised before ≠ .ok () → body = []) ∧ after.map Call.code = entry.after ∧
      entry.run (noting exec) t = (Call.firstRaised (before ++ body ++ after), t') ∧
      t'.calls = t.calls ++ (before ++ body ++ after) ∧
      Call.Linked exec t.forget (before ++ body ++ after) t'.forget := by
  obtain ⟨before, t₁, huntil, hbefore, hcalls₁, hlinked₁⟩ := runBefore_noting exec entry.before t
  obtain ⟨body, t₂, hbody, hnone, hrunBody, hcalls₂, hlinked₂⟩ :=
    entry.runBody_noting exec (Call.firstRaised before) t₁
  obtain ⟨after, t', hafter, hrunAfter, hcalls, hlinked⟩ := runAfter_noting exec entry.after
    (Verdict.andThen (Call.firstRaised before) (Call.firstRaised body)) t₂
  refine ⟨before, body, after, t', huntil, hbody, hnone, hafter, ?_, ?_,
    (hlinked₁.append hlinked₂).append hlinked⟩
  · rw [Call.firstRaised_append, Call.firstRaised_append, run, hbefore]
    simp only [hrunBody]
    exact hrunAfter
  · rw [hcalls, hcalls₂, hcalls₁]
    simp only [List.append_assoc]

/-- The calls of an example begin with the hooks before it and its body, up to the first that raises,
and end with every hook after it. The verdict is that of the first of them that raised. -/
theorem run_noting (exec : β → Action σ) (entry : Scheduled β) (t : Thread (σ × List (Call β))) :
    ∃ (leading trailing : List (Call β)) (t' : Thread (σ × List (Call β))),
      Call.Until (entry.before ++ entry.subject.body.toList) leading ∧
      trailing.map Call.code = entry.after ∧
      entry.run (noting exec) t = (Call.firstRaised (leading ++ trailing), t') ∧
      t'.calls = t.calls ++ (leading ++ trailing) := by
  obtain ⟨before, body, after, t', huntil, hbody, hnone, hafter, hrun, hcalls, -⟩ :=
    entry.run_phases exec t
  refine ⟨before ++ body, after, t', ?_, hafter, hrun, hcalls⟩
  cases hv : Call.firstRaised before with
  | ok _ => exact huntil.append hv (.of_toList (hbody hv))
  | error e =>
    rw [hnone (by simp [hv]), List.append_nil]
    exact huntil.append_of_error hv _

/-- The calls that are noted are the run: they lead from its first thread to its last, and the first of
them that raised gives the verdict. -/
theorem run_linked (exec : β → Action σ) (entry : Scheduled β) (t : Thread σ) :
    let calls := (entry.run (noting exec) t.noted).2.calls
    (entry.run exec t).1 = Call.firstRaised calls ∧ Call.Linked exec t calls (entry.run exec t).2 := by
  obtain ⟨before, body, after, t', -, -, -, -, hrun, hcalls, hlinked⟩ :=
    entry.run_phases exec t.noted
  have hsame : t = (t.noted : Thread (σ × List (Call β))).forget := rfl
  obtain ⟨hverdict, hforget⟩ := (noting_simulates exec).run entry hsame
  have hnoted : t'.calls = before ++ body ++ after := hcalls
  rw [hrun] at hverdict hforget ⊢
  simp only [hnoted]
  exact ⟨hverdict, hforget ▸ hlinked⟩

/-- How a run of an example goes: what it calls, on which threads, and what comes of it. -/
structure InOrder (exec : β → Action σ) (entry : Scheduled β) (t : Thread σ)
    (before body after : List (Call β)) : Prop where
  /-- The hooks before the example are called in order, up to the first that raises. -/
  before_until : Call.Until entry.before before
  body_of_passed : (∀ c ∈ before, c.verdict = .ok ()) →
    body.map Call.code = entry.subject.body.toList
  body_of_raised : (∃ c ∈ before, c.verdict ≠ .ok ()) → body = []
  /-- Every hook after the example is called once, in order. -/
  after_all : after.map Call.code = entry.after
  /-- Nothing else is called. -/
  noted_eq : (entry.run (noting exec) t.noted).2.calls = before ++ body ++ after
  /-- Each call finds the thread as the one before it has left it. -/
  linked : Call.Linked exec t (before ++ body ++ after) (entry.run exec t).2
  passed_iff : (entry.run exec t).1 = .ok () ↔ ∀ c ∈ before ++ body ++ after, c.verdict = .ok ()
  /-- The error is that of the first call that raised. -/
  raised_iff : ∀ e, (entry.run exec t).1 = .error e ↔
    ∃ earlier c later, before ++ body ++ after = earlier ++ c :: later ∧
      (∀ d ∈ earlier, d.verdict = .ok ()) ∧ c.verdict = .error e

/-- Hooks and body of an example are called in order, the hooks after it whatever has happened, and the
first error counts. -/
theorem run_inOrder (exec : β → Action σ) (entry : Scheduled β) (t : Thread σ) :
    ∃ before body after, entry.InOrder exec t before body after := by
  obtain ⟨before, body, after, t', huntil, hbody, hnone, hafter, hrun, hcalls, -⟩ :=
    entry.run_phases exec t.noted
  have hnoted : (entry.run (noting exec) t.noted).2.calls = before ++ body ++ after := by
    rw [hrun]
    exact hcalls
  obtain ⟨hverdict, hlinked⟩ := entry.run_linked exec t
  rw [hnoted] at hverdict hlinked
  refine ⟨before, body, after, huntil, ?_, ?_, hafter, hnoted, hlinked, ?_, ?_⟩
  · exact fun h => hbody (Call.firstRaised_eq_ok_iff.mpr h)
  · rintro ⟨c, hc, hraised⟩
    exact hnone fun h => hraised (Call.firstRaised_eq_ok_iff.mp h c hc)
  · rw [hverdict]
    exact Call.firstRaised_eq_ok_iff
  · intro e
    rw [hverdict]
    exact Call.firstRaised_eq_error_iff

end Scheduled

end Exemplar

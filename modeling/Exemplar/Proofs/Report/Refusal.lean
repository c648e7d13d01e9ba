import Exemplar.Proofs.Bridge.Calls

namespace Exemplar

variable {β σ ρ : Type}

/-- A call of a recorder: the failure that it was told of, and why it refused it, if it did. -/
structure Told where
  failure : RecordedFailure
  refusal : Option ReportError
  deriving DecidableEq, Repr

namespace Recorder

/-- Does what the recorder does, but takes every failure. -/
def taking (recorder : Recorder ρ) : Recorder ρ := fun message file line expected host trace =>
  (.ok (), (recorder message file line expected host trace).2)

/-- The recorder with a note of each call that it gets and of what it answers. -/
def recalling (recorder : Recorder ρ) : Recorder (ρ × List Told) :=
  fun message file line expected (host, told) trace =>
    let (answer, host, trace) := recorder message file line expected host trace
    let refusal := match answer with
      | .ok () => none
      | .error e => some e
    (answer, (host, told ++ [⟨⟨message, file, line, expected⟩, refusal⟩]), trace)

theorem recalling_follows (recorder : Recorder ρ) : Follows Prod.fst recorder.recalling recorder :=
  fun _ _ _ _ _ _ => rfl

end Recorder

/-- A recorder is told of a failure and of nothing else, and unless it refuses the outcome stands. -/
theorem Outcome.settle_recalling (recorder : Recorder ρ) (o : Outcome)
    (s : Stage σ (ρ × List Told)) :
    (o.settle recorder.recalling s = (.ok o, (o.settle recorder.recalling s).2) ∧
      ∃ told : List Told, (∀ c ∈ told, c.refusal = none) ∧
        told.map Told.failure = (o.failure?.map Failure.recorded).toList ∧
        (o.settle recorder.recalling s).2.host.2 = s.host.2 ++ told) ∨
    ∃ (f : Failure) (e : ReportError), o = .failed f ∧
      o.settle recorder.recalling s = (.error (.report e), (o.settle recorder.recalling s).2) ∧
      (o.settle recorder.recalling s).2.host.2 = s.host.2 ++ [⟨f.recorded, some e⟩] := by
  cases o with
  | passed => exact .inl ⟨rfl, [], by simp, rfl, (List.append_nil _).symm⟩
  | pending => exact .inl ⟨rfl, [], by simp, rfl, (List.append_nil _).symm⟩
  | failed f =>
    simp only [settle, Stage.report, Recorder.recalling]
    rcases recorder f.message f.callsite.file f.callsite.line expectedFailure s.host.1
      s.thread.trace with ⟨e | _, host, trace⟩
    · exact .inr ⟨f, e, rfl, rfl, rfl⟩
    · exact .inl ⟨rfl, [⟨f.recorded, none⟩], by simp, rfl, rfl⟩

theorem Outcome.settle_taking (recorder : Recorder ρ) (o : Outcome) (s : Stage σ ρ) :
    o.settle recorder.taking s = (.ok o, (o.settle recorder s).2) := by
  cases o with
  | passed => rfl
  | pending => rfl
  | failed f =>
    simp only [settle, Stage.report, Recorder.taking]
    rcases recorder f.message f.callsite.file f.callsite.line expectedFailure s.host
      s.thread.trace with ⟨_ | _, host, trace⟩ <;> rfl

/-- The thread of a user is not touched by what the recorder is told. -/
theorem Outcome.settle_user (recorder : Recorder ρ) (o : Outcome) (s : Stage σ ρ) :
    (o.settle recorder s).2.thread.user = s.thread.user := by
  cases o with
  | passed => rfl
  | pending => rfl
  | failed f =>
    simp only [settle, Stage.report]
    rcases recorder f.message f.callsite.file f.callsite.line expectedFailure s.host
      s.thread.trace with ⟨_ | _, host, trace⟩ <;> rfl

/-- The calls of an example in a run: none if it is pending, and else the hooks before it and its body,
up to the first that raises, and then every hook after it. -/
def Scheduled.Called (entry : Scheduled β) (calls : List (Call β)) : Prop :=
  match entry.subject.body with
  | none => calls = []
  | some body => ∃ leading trailing, calls = leading ++ trailing ∧
    Call.Until (entry.before ++ [body]) leading ∧ trailing.map Call.code = entry.after

/-- How an example ends whose hooks and body were called: by the first of these calls that raised. -/
def Scheduled.endOf (entry : Scheduled β) (calls : List (Call β)) : Outcome :=
  match entry.subject.body with
  | none => .pending
  | some _ =>
    match Call.firstRaised calls with
    | .ok () => .passed
    | .error e => .failed (.resolve e entry.subject.callsite)

namespace Bridge

variable (exec : β → Action σ) (b : Bridge β)

/-- Running an invocation calls the hooks and the body of its example and no others, and the example
ends as these calls have it. -/
theorem calls_run {id : String} {entry : Scheduled β} (h : b.resolve id = .ok entry)
    (recorder : Recorder ρ) (s : Stage (σ × List (Call β)) ρ) :
    ∃ calls, entry.Called calls ∧
      (b.run (noting exec) recorder id s).2.thread.calls = s.thread.calls ++ calls ∧
      entry.outcome (noting exec) (s.thread.emit (.exampleRunning b.spec id)) = entry.endOf calls := by
  rw [b.run_of_resolve (noting exec) h, Thread.calls, Outcome.settle_user, executed]
  unfold Scheduled.Called Scheduled.outcome Scheduled.endOf
  cases hb : entry.subject.body with
  | none => exact ⟨[], rfl, (List.append_nil _).symm, rfl⟩
  | some body =>
    obtain ⟨leading, trailing, t', huntil, hafter, hrun, hcalls⟩ :=
      entry.run_noting exec (s.thread.emit (.exampleRunning b.spec id))
    rw [hb] at huntil
    rw [hrun]
    refine ⟨leading ++ trailing, ⟨leading, trailing, rfl, huntil, hafter⟩, ?_⟩
    cases Call.firstRaised (leading ++ trailing) with
    | error e => exact ⟨hcalls, rfl⟩
    | ok _ => exact ⟨hcalls, rfl⟩

/-- Running invocations in turn calls the hooks and bodies of their examples in turn. -/
theorem calls_stageAfter {ids : List String} (hr : ∀ id ∈ ids, ∃ entry, b.resolve id = .ok entry)
    (recorder : Recorder ρ) (s : Stage (σ × List (Call β)) ρ) :
    ∃ called : List (List (Call β)), called.length = ids.length ∧
      (b.stageAfter (noting exec) recorder ids s).thread.calls = s.thread.calls ++ called.flatten ∧
      ∀ (i : Nat) (id : String) (entry : Scheduled β), ids[i]? = some id → b.resolve id = .ok entry →
        ∃ calls, called[i]? = some calls ∧ entry.Called calls := by
  induction ids generalizing s with
  | nil => exact ⟨[], rfl, (List.append_nil _).symm, fun _ _ _ hi => by simp at hi⟩
  | cons id ids ih =>
    obtain ⟨entry, hentry⟩ := hr id List.mem_cons_self
    obtain ⟨calls, hcalled, hcalls, -⟩ := b.calls_run exec hentry recorder s
    obtain ⟨called, hlength, hflatten, hall⟩ :=
      ih (fun id' hid' => hr id' (List.mem_cons_of_mem id hid')) (b.run (noting exec) recorder id s).2
    refine ⟨calls :: called, congrArg (· + 1) hlength, ?_, ?_⟩
    · have hafter : b.stageAfter (noting exec) recorder (id :: ids) s =
          b.stageAfter (noting exec) recorder ids (b.run (noting exec) recorder id s).2 := rfl
      rw [hafter, hflatten, hcalls, List.append_assoc, List.flatten_cons]
    · intro i id' entry' hi hentry'
      cases i with
      | zero =>
        obtain rfl : id = id' := Option.some.inj hi
        obtain rfl : entry = entry' := Except.ok.inj (hentry.symm.trans hentry')
        exact ⟨calls, rfl, hcalled⟩
      | succ i => exact hall i id' entry' hi hentry'

theorem run_taking {id : String} {entry : Scheduled β} (h : b.resolve id = .ok entry)
    (recorder : Recorder ρ) (s : Stage σ ρ) :
    b.run exec recorder.taking id s =
      (.ok (entry.outcome exec (s.thread.emit (.exampleRunning b.spec id))),
        (b.run exec recorder id s).2) := by
  rw [b.run_of_resolve exec h, b.run_of_resolve exec h, Outcome.settle_taking]

/-- A run was stopped by a refusal. The invocations before the one at `m` came to their end with their
reports, the failure of that one was refused, and no other invocation was run. The recorder was told
what it is told up to there when it has no say. -/
structure StopsAt (recorder : Recorder ρ) (ids : List String) (s : Stage σ (ρ × List Told))
    (reports : List ExampleReport) (told : List Told) (e : ReportError) (m : Nat)
    (stage : Stage σ (ρ × List Told)) : Prop where
  stage_eq : stage = b.stageAfter exec recorder.recalling (ids.take (m + 1)) s
  told_eq : ∃ (taken : List Told) (f : RecordedFailure) (after : List Told),
    told = taken ++ ⟨f, some e⟩ :: after ∧
    stage.host.2 = s.host.2 ++ (taken ++ [⟨f, some e⟩]) ∧ (∀ c ∈ taken, c.refusal = none) ∧
    taken.map Told.failure = (reports.take m).filterMap ExampleReport.failure ∧
    reports[m]?.bind ExampleReport.failure = some f

/-- A turn is the same whether or not the recorder has a say, unless it has one and refuses the failure
of the example. -/
theorem runNext_recalling {id : String} {entry : Scheduled β} (h : b.resolve id = .ok entry)
    (recorder : Recorder ρ) (summary : Summary) (s : Stage σ (ρ × List Told)) :
    let s₁ := (b.run exec recorder.recalling id s).2
    ∃ report : ExampleReport,
      b.runNext exec recorder.recalling.taking id summary s = (.ok (summary.push report), s₁) ∧
      ((∃ told : List Told, (∀ c ∈ told, c.refusal = none) ∧
          told.map Told.failure = report.failure.toList ∧ s₁.host.2 = s.host.2 ++ told ∧
          b.runNext exec recorder.recalling id summary s = (.ok (summary.push report), s₁)) ∨
        ∃ (f : RecordedFailure) (e : ReportError), report.failure = some f ∧
          s₁.host.2 = s.host.2 ++ [⟨f, some e⟩] ∧
          b.runNext exec recorder.recalling id summary s = (.error (.report e), s₁)) := by
  intro s₁
  let o := entry.outcome exec (s.thread.emit (.exampleRunning b.spec id))
  let report := ExampleReport.ofOutcome
    (b.spec ++ ": " ++ entry.subject.fullDescription b.separator) id o
  have hfailure : report.failure = o.failure?.map Failure.recorded :=
    ExampleReport.failure_ofOutcome _ _ o
  have hsettle : b.run exec recorder.recalling id s =
      o.settle recorder.recalling (b.executed exec id entry s) :=
    b.run_of_resolve exec h recorder.recalling s
  refine ⟨report, ?_, ?_⟩
  · rw [b.runNext_of_resolve exec h, b.run_taking exec h]
    rfl
  have hcases := o.settle_recalling recorder (b.executed exec id entry s)
  rw [← hsettle, executed_host] at hcases
  rcases hcases with ⟨hok, told, hnone, htold, hhost⟩ | ⟨f, e, hf, herror, hhost⟩
  · refine .inl ⟨told, hnone, htold.trans (by rw [hfailure]), hhost, ?_⟩
    rw [b.runNext_of_resolve exec h, hok]
    rfl
  · refine .inr ⟨f.recorded, e, ?_, hhost, ?_⟩
    · rw [hfailure, hf]
      rfl
    · rw [b.runNext_of_resolve exec h, herror]
      rfl

variable {exec b} in
/-- A refusal in the first turn stops the run there. -/
theorem StopsAt.head {recorder : Recorder ρ} {id : String} {s : Stage σ (ρ × List Told)}
    {report : ExampleReport} {f : RecordedFailure} {e : ReportError} (hf : report.failure = some f)
    (hhost : (b.run exec recorder.recalling id s).2.host.2 = s.host.2 ++ [⟨f, some e⟩])
    (ids : List String) (reports : List ExampleReport) (told : List Told) :
    b.StopsAt exec recorder (id :: ids) s (report :: reports) (⟨f, some e⟩ :: told) e 0
      (b.run exec recorder.recalling id s).2 :=
  ⟨rfl, [], f, told, rfl, hhost, by simp, rfl, hf⟩

variable {exec b} in
/-- A refusal in a later turn stops the run if the first turn was taken. -/
theorem StopsAt.cons {recorder : Recorder ρ} {id : String} {ids : List String}
    {s stage : Stage σ (ρ × List Told)} {reports : List ExampleReport} {told : List Told}
    {e : ReportError} {m : Nat}
    (h : b.StopsAt exec recorder ids (b.run exec recorder.recalling id s).2 reports told e m stage)
    {report : ExampleReport} {first : List Told} (hnone : ∀ c ∈ first, c.refusal = none)
    (hfirst : first.map Told.failure = report.failure.toList)
    (hhost : (b.run exec recorder.recalling id s).2.host.2 = s.host.2 ++ first) :
    b.StopsAt exec recorder (id :: ids) s (report :: reports) (first ++ told) e (m + 1) stage := by
  obtain ⟨hstage, taken, f, after, hsplit, hstop, hall, htake, hm⟩ := h
  refine ⟨hstage, first ++ taken, f, after, ?_, ?_, List.forall_mem_append.mpr ⟨hnone, hall⟩, ?_, hm⟩
  · rw [hsplit, List.append_assoc]
  · rw [hstop, hhost, List.append_assoc, List.append_assoc]
  · rw [List.map_append, hfirst, htake, List.take_succ_cons, List.filterMap_cons]
    cases report.failure <;> rfl

/-- The run in which every failure is taken gives one report for each invocation and is told of the
failures of its reports. The run in which the recorder has a say is the same run, unless the recorder
refuses one of these failures: there it stops. -/
theorem runEach_recalling {ids : List String} (hr : ∀ id ∈ ids, ∃ entry, b.resolve id = .ok entry)
    (recorder : Recorder ρ) (summary : Summary) (s : Stage σ (ρ × List Told)) :
    ∃ (reports : List ExampleReport) (told : List Told), reports.length = ids.length ∧
      b.runEach exec recorder.recalling.taking ids summary s =
        (.ok (reports.foldl Summary.push summary), b.stageAfter exec recorder.recalling ids s) ∧
      (b.stageAfter exec recorder.recalling ids s).host.2 = s.host.2 ++ told ∧
      told.map Told.failure = reports.filterMap ExampleReport.failure ∧
      ((∀ c ∈ told, c.refusal = none) ∧ b.runEach exec recorder.recalling ids summary s =
          (.ok (reports.foldl Summary.push summary), b.stageAfter exec recorder.recalling ids s) ∨
      ∃ e m stage, b.runEach exec recorder.recalling ids summary s = (.error (.report e), stage) ∧
        b.StopsAt exec recorder ids s reports told e m stage) := by
  induction ids generalizing summary s with
  | nil => exact ⟨[], [], rfl, rfl, (List.append_nil _).symm, rfl, .inl ⟨by simp, rfl⟩⟩
  | cons id ids ih =>
    obtain ⟨entry, hentry⟩ := hr id List.mem_cons_self
    obtain ⟨report, htaking, hturn⟩ := b.runNext_recalling exec hentry recorder summary s
    obtain ⟨reports, told, hlength, heach, htold, hfailures, hstrict⟩ :=
      ih (fun id' hid' => hr id' (List.mem_cons_of_mem id hid')) (summary.push report)
        (b.run exec recorder.recalling id s).2
    have hall : b.runEach exec recorder.recalling.taking (id :: ids) summary s =
        (.ok ((report :: reports).foldl Summary.push summary),
          b.stageAfter exec recorder.recalling (id :: ids) s) := by
      rw [runEach, htaking]
      exact heach
    have hhost {first : List Told}
        (h : (b.run exec recorder.recalling id s).2.host.2 = s.host.2 ++ first) :
        (b.stageAfter exec recorder.recalling (id :: ids) s).host.2 = s.host.2 ++ (first ++ told) := by
      rw [← List.append_assoc, ← h]
      exact htold
    rcases hturn with ⟨first, hnone, hfirst, hfirsthost, hnext⟩ | ⟨f, e, hf, hfhost, hnext⟩
    · -- the failure, if there is one, is taken, and the run goes on
      refine ⟨report :: reports, first ++ told, congrArg (· + 1) hlength, hall, hhost hfirsthost, ?_, ?_⟩
      · rw [List.map_append, hfirst, hfailures, List.filterMap_cons]
        cases report.failure <;> rfl
      · rw [runEach, hnext]
        rcases hstrict with ⟨htaken, hrun⟩ | ⟨e, m, stage, hrun, hstop⟩
        · exact .inl ⟨List.forall_mem_append.mpr ⟨hnone, htaken⟩, hrun⟩
        · exact .inr ⟨e, m + 1, stage, hrun, hstop.cons hnone hfirst hfirsthost⟩
    · -- the failure is refused, and nothing else is run
      refine ⟨report :: reports, ⟨f, some e⟩ :: told, congrArg (· + 1) hlength, hall, hhost hfhost, ?_,
        .inr ⟨e, 0, _, ?_, .head hf hfhost ids reports told⟩⟩
      · rw [List.map_cons, hfailures, List.filterMap_cons, hf]
      · rw [runEach, hnext]

end Bridge

end Exemplar

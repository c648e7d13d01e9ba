import Exemplar.Proofs.Bridge.Running

namespace Exemplar

variable {β σ ρ ρ' : Type}

/-- The report says how an example that was run on a thread ended, and where it failed. -/
structure ExampleReport.Accounts (exec : β → Action σ) (spec separator id : String)
    (entry : Scheduled β) (t : Thread σ) (report : ExampleReport) : Prop where
  name_eq : report.name =
    spec ++ ": " ++ separator.intercalate (entry.subject.ancestry ++ [entry.subject.description])
  invocation_eq : report.invocation = id
  pending_iff : report.status = .pending ↔ entry.subject.body = none
  failed_iff : report.status = .failed ↔
    entry.subject.body ≠ none ∧ ∃ e, (entry.run exec t).1 = .error e
  failure_isSome_iff : report.failure.isSome ↔ report.status = .failed
  failure_eq : ∀ e : ExampleError, report.status = .failed → (entry.run exec t).1 = .error e →
    report.failure = some ⟨e.message, (e.location.getD entry.subject.callsite).file,
      (e.location.getD entry.subject.callsite).line, false⟩

theorem ExampleReport.Accounts.of_assignName {exec : β → Action σ} {spec separator id name : String}
    {entry : Scheduled β} {t : Thread σ} {report : ExampleReport}
    (h : report.Accounts exec spec separator id
      { entry with subject := entry.subject.assignName name } t) :
    report.Accounts exec spec separator id entry t :=
  ⟨h.name_eq, h.invocation_eq, h.pending_iff, h.failed_iff, h.failure_isSome_iff, h.failure_eq⟩

theorem ExampleReport.accounts_ofOutcome (exec : β → Action σ) (spec separator id : String)
    (entry : Scheduled β) (t : Thread σ) :
    (ofOutcome (spec ++ ": " ++ entry.subject.fullDescription separator) id
      (entry.outcome exec t)).Accounts exec spec separator id entry t := by
  have hname : entry.subject.fullDescription separator =
    separator.intercalate (entry.subject.ancestry ++ [entry.subject.description]) := rfl
  rw [hname]
  cases hb : entry.subject.body with
  | none =>
    have ho : entry.outcome exec t = .pending := by rw [Scheduled.outcome, hb]
    rw [ho]
    constructor <;> simp [ofOutcome, hb]
  | some body =>
    cases hr : (entry.run exec t).1 with
    | ok =>
      have ho : entry.outcome exec t = .passed := by rw [Scheduled.outcome, hb, hr]
      rw [ho]
      constructor <;> simp [ofOutcome, hb, hr]
    | error e =>
      have ho : entry.outcome exec t = .failed (.resolve e entry.subject.callsite) := by
        rw [Scheduled.outcome, hb, hr]
      rw [ho]
      constructor <;> simp [ofOutcome, hb, hr, Failure.recorded, Failure.resolve, Failure.message]

theorem ExampleReport.failure_ofOutcome (name id : String) (o : Outcome) :
    (ofOutcome name id o).failure = o.failure?.map Failure.recorded := by
  cases o <;> rfl

namespace Summary

/-- The summary of a run reports on each scheduled example, in order; `turn` gives the threads on which
the examples had their turns. -/
structure Accounts (exec : β → Action σ) (spec separator : String) (ids : List String)
    (schedule : List (Scheduled β)) (turn : Nat → Thread σ) (summary : Summary) : Prop where
  spec_eq : summary.spec = spec
  length_eq : summary.reports.length = schedule.length
  report : ∀ (i : Nat) (entry : Scheduled β), schedule[i]? = some entry →
    ∃ id report, ids[i]? = some id ∧ summary.reports[i]? = some report ∧
      report.Accounts exec spec separator id entry ((turn i).emit (.exampleRunning spec id))
  passed_eq : summary.passed = summary.reports.countP (·.status = .passed)
  failed_eq : summary.failed = summary.reports.countP (·.status = .failed)
  pending_eq : summary.pending = summary.reports.countP (·.status = .pending)
  total_eq : summary.passed + summary.failed + summary.pending = summary.reports.length

theorem foldl_push (s : Summary) (reports : List ExampleReport) :
    reports.foldl push s =
      ⟨s.spec, s.reports ++ reports, s.passed + reports.countP (·.status = .passed),
        s.failed + reports.countP (·.status = .failed),
        s.pending + reports.countP (·.status = .pending)⟩ := by
  induction reports generalizing s with
  | nil => simp
  | cons report reports ih =>
    rw [List.foldl_cons, ih, push]
    cases hs : report.status <;>
      simp only [hs, List.append_assoc, List.singleton_append, List.countP_cons, decide_true,
        reduceCtorEq, decide_false, Nat.add_zero, if_true, Bool.false_eq_true, if_false,
        Summary.mk.injEq, true_and, and_true] <;> omega

theorem countP_status (reports : List ExampleReport) :
    reports.countP (·.status = .passed) + reports.countP (·.status = .failed) +
      reports.countP (·.status = .pending) = reports.length := by
  induction reports with
  | nil => rfl
  | cons report reports ih =>
    simp only [List.countP_cons, List.length_cons]
    cases report.status <;> simp <;> omega

/-- Reports that were pushed in order make a summary that accounts for the examples if each of them
accounts for the example of its number. -/
theorem accounts_foldl_push {exec : β → Action σ} {spec separator : String} {ids : List String}
    {schedule : List (Scheduled β)} {turn : Nat → Thread σ} {reports : List ExampleReport}
    (hl : reports.length = schedule.length)
    (hr : ∀ (i : Nat) (entry : Scheduled β), schedule[i]? = some entry →
      ∃ id report, ids[i]? = some id ∧ reports[i]? = some report ∧
        report.Accounts exec spec separator id entry ((turn i).emit (.exampleRunning spec id))) :
    (reports.foldl push (start spec)).Accounts exec spec separator ids schedule turn := by
  have hcounts := countP_status reports
  rw [foldl_push]
  refine ⟨rfl, hl, hr, ?_, ?_, ?_, ?_⟩
  · exact Nat.zero_add _
  · exact Nat.zero_add _
  · exact Nat.zero_add _
  · simpa only [start, Nat.zero_add, List.nil_append] using hcounts

end Summary

namespace Bridge

variable (exec : β → Action σ)

theorem runAll_of_ok {b : Bridge β} {recorder : Recorder ρ} {ids : List String} {s s' : Stage σ ρ}
    {summary : Summary} (hids : b.invocations.map Invocation.id = ids)
    (h : b.runEach exec recorder ids (.start b.spec) s = (.ok summary, s')) :
    b.runAll exec recorder s = (.ok summary,
      s'.emit (.runFinished summary.spec summary.passed summary.failed summary.pending)) := by
  rw [runAll, hids, h]

theorem runAll_of_error {b : Bridge β} {recorder : Recorder ρ} {ids : List String}
    {s s' : Stage σ ρ} {e : SpecError} (hids : b.invocations.map Invocation.id = ids)
    (h : b.runEach exec recorder ids (.start b.spec) s = (.error e, s')) :
    b.runAll exec recorder s = (.error e, s') := by
  rw [runAll, hids, h]

variable (b : Bridge β)

/-- The stage after invocations were run in turn. -/
def stageAfter (recorder : Recorder ρ) (ids : List String) (s : Stage σ ρ) : Stage σ ρ :=
  ids.foldl (fun s id => (b.run exec recorder id s).2) s

theorem stageAfter_mapHost {φ : ρ → ρ'} {recorder : Recorder ρ} {recorder' : Recorder ρ'}
    (h : recorder.Follows φ recorder') (ids : List String) (s : Stage σ ρ) :
    b.stageAfter exec recorder' ids (s.mapHost φ) = (b.stageAfter exec recorder ids s).mapHost φ := by
  induction ids generalizing s with
  | nil => rfl
  | cons id ids ih =>
    have hrun := congrArg Prod.snd (b.run_mapHost exec h id s)
    simp only [stageAfter, List.foldl_cons] at ih ⊢
    rw [hrun, ih]

/-- Making an invocation current and running it adds the report of its outcome. -/
theorem runNext_of_resolve {id : String} {entry : Scheduled β} (h : b.resolve id = .ok entry)
    (recorder : Recorder ρ) (summary : Summary) (s : Stage σ ρ) :
    b.runNext exec recorder id summary s =
      ((b.run exec recorder id s).1.map fun o => summary.push
        (.ofOutcome (b.spec ++ ": " ++ entry.subject.fullDescription b.separator) id o),
        (b.run exec recorder id s).2) := by
  have hname : (b.setCurrent id).displayName =
      .ok (b.spec ++ ": " ++ entry.subject.fullDescription b.separator) := by
    have hr : (b.setCurrent id).resolve id = .ok entry := h
    simp only [displayName, currentId, setCurrent, displayNameOf, getExample] at hr ⊢
    rw [hr]
  have hrun : (b.setCurrent id).runCurrent exec recorder s = b.run exec recorder id s := rfl
  rw [runNext, hname, hrun]
  rcases b.run exec recorder id s with ⟨_ | _, s'⟩ <;> rfl

theorem runEach_mapHost {φ : ρ → ρ'} {recorder : Recorder ρ} {recorder' : Recorder ρ'}
    (h : recorder.Follows φ recorder') (ids : List String) (summary : Summary) (s : Stage σ ρ) :
    b.runEach exec recorder' ids summary (s.mapHost φ) =
      ((b.runEach exec recorder ids summary s).1,
        (b.runEach exec recorder ids summary s).2.mapHost φ) := by
  induction ids generalizing summary s with
  | nil => rfl
  | cons id ids ih =>
    have hnext : b.runNext exec recorder' id summary (s.mapHost φ) =
        ((b.runNext exec recorder id summary s).1,
          (b.runNext exec recorder id summary s).2.mapHost φ) := by
      have hrun : (b.setCurrent id).runCurrent exec recorder' (s.mapHost φ) =
          (((b.setCurrent id).runCurrent exec recorder s).1,
            ((b.setCurrent id).runCurrent exec recorder s).2.mapHost φ) :=
        b.run_mapHost exec h id s
      rw [runNext, runNext, hrun]
      cases (b.setCurrent id).displayName with
      | error e => rfl
      | ok name => rcases (b.setCurrent id).runCurrent exec recorder s with ⟨_ | _, s'⟩ <;> rfl
    rw [runEach, runEach, hnext]
    rcases b.runNext exec recorder id summary s with ⟨e | summary', s'⟩
    · rfl
    · exact ih summary' s'

theorem runAll_mapHost {φ : ρ → ρ'} {recorder : Recorder ρ} {recorder' : Recorder ρ'}
    (h : recorder.Follows φ recorder') (s : Stage σ ρ) :
    b.runAll exec recorder' (s.mapHost φ) =
      ((b.runAll exec recorder s).1, (b.runAll exec recorder s).2.mapHost φ) := by
  rw [runAll, runAll, runEach_mapHost exec b h]
  rcases b.runEach exec recorder (b.invocations.map Invocation.id) (.start b.spec) s with
    ⟨_ | _, s'⟩ <;> rfl

/-- An invocation that is bound adds its report, and a recorder that takes every failure is told of the
failure in this report, if there is one. -/
theorem runNext_noting {recorder : Recorder ρ} (h : recorder.Accepts) {id : String}
    {entry : Scheduled β} (hr : b.resolve id = .ok entry) (summary : Summary)
    (s : Stage σ (ρ × List RecordedFailure)) :
    ∃ report : ExampleReport,
      report.Accounts exec b.spec b.separator id entry
        (s.thread.emit (.exampleRunning b.spec id)) ∧
      b.runNext exec recorder.noting id summary s =
        (.ok (summary.push report), (b.run exec recorder.noting id s).2) ∧
      (b.run exec recorder.noting id s).2.host.2 = s.host.2 ++ report.failure.toList := by
  have hrun := b.run_of_resolve exec hr recorder.noting s
  have hnext := b.runNext_of_resolve exec hr recorder.noting summary s
  obtain ⟨hok, hcalls⟩ := Outcome.settle_noting h
    (entry.outcome exec (s.thread.emit (.exampleRunning b.spec id))) (b.executed exec id entry s)
  rw [← hrun] at hok hcalls
  rw [hok] at hnext
  refine ⟨_, ExampleReport.accounts_ofOutcome exec b.spec b.separator id entry _, hnext, ?_⟩
  rw [hcalls, executed_host, ExampleReport.failure_ofOutcome]

/-- If all invocations are bound and all failures taken, the loop runs to its end: it gives one report
for each invocation, and the recorder is called with the failures of the reports in order. -/
theorem runEach_noting {recorder : Recorder ρ} (h : recorder.Accepts) {ids : List String}
    (hr : ∀ id ∈ ids, ∃ entry, b.resolve id = .ok entry) (summary : Summary)
    (s : Stage σ (ρ × List RecordedFailure)) :
    ∃ reports : List ExampleReport,
      b.runEach exec recorder.noting ids summary s =
        (.ok (reports.foldl Summary.push summary), b.stageAfter exec recorder.noting ids s) ∧
      reports.length = ids.length ∧
      (b.stageAfter exec recorder.noting ids s).host.2 =
        s.host.2 ++ reports.filterMap ExampleReport.failure ∧
      ∀ (i : Nat) (id : String) (entry : Scheduled β), ids[i]? = some id → b.resolve id = .ok entry →
        ∃ report, reports[i]? = some report ∧ report.Accounts exec b.spec b.separator id entry
          ((b.stageAfter exec recorder.noting (ids.take i) s).thread.emit
            (.exampleRunning b.spec id)) := by
  induction ids generalizing summary s with
  | nil => exact ⟨[], rfl, rfl, (List.append_nil _).symm, fun _ _ _ hi => by simp at hi⟩
  | cons id ids ih =>
    obtain ⟨entry, hentry⟩ := hr id List.mem_cons_self
    obtain ⟨report, hreport, hnext, hcalls⟩ := b.runNext_noting exec h hentry summary s
    have hrest : ∀ id' ∈ ids, ∃ entry, b.resolve id' = .ok entry :=
      fun id' hid' => hr id' (List.mem_cons_of_mem id hid')
    obtain ⟨reports, heach, hlength, hhost, hreports⟩ :=
      ih hrest (summary.push report) (b.run exec recorder.noting id s).2
    refine ⟨report :: reports, ?_, congrArg (· + 1) hlength, ?_, ?_⟩
    · rw [runEach, hnext]
      exact heach
    · have hafter : b.stageAfter exec recorder.noting (id :: ids) s =
          b.stageAfter exec recorder.noting ids (b.run exec recorder.noting id s).2 := rfl
      rw [hafter, hhost, hcalls, List.append_assoc, List.filterMap_cons]
      cases report.failure <;> rfl
    · intro i id' entry' hi hentry'
      cases i with
      | zero =>
        obtain rfl : id = id' := Option.some.inj hi
        obtain rfl : entry = entry' := Except.ok.inj (hentry.symm.trans hentry')
        exact ⟨report, rfl, hreport⟩
      | succ i => exact hreports i id' entry' hi hentry'

/-- A bridge whose identifiers are pairwise distinct gives each example of its group one turn. -/
theorem runAll_noting {recorder : Recorder ρ} (h : recorder.Accepts) (spec separator : String)
    {g : Group β} (hd : ((entries g).map Prod.fst).Nodup) (s : Stage σ (ρ × List RecordedFailure)) :
    ∃ summary s', (ofGroup spec separator g).1.runAll exec recorder.noting s = (.ok summary, s') ∧
      summary.Accounts exec spec separator ((entries g).map Prod.fst) g.schedule (fun i =>
        ((ofGroup spec separator g).1.stageAfter exec recorder.noting
          (((entries g).map Prod.fst).take i) s).thread) ∧
      s'.host.2 = s.host.2 ++ summary.reports.filterMap ExampleReport.failure := by
  have hbound : ∀ id ∈ (entries g).map Prod.fst, ∃ entry,
      (ofGroup spec separator g).1.resolve id = .ok entry := by
    intro id hid
    obtain ⟨entry, hentry, rfl⟩ := List.mem_map.mp hid
    exact ⟨entry.2, resolve_of_nodup spec separator g hd hentry⟩
  obtain ⟨reports, heach, hlength, hcalls, hreports⟩ :=
    (ofGroup spec separator g).1.runEach_noting exec h hbound (.start spec) s
  have hall : ∃ s', (ofGroup spec separator g).1.runAll exec recorder.noting s =
      (.ok (reports.foldl Summary.push (.start spec)), s') ∧
      s'.host.2 = s.host.2 ++ reports.filterMap ExampleReport.failure := by
    have hspec : (ofGroup spec separator g).1.spec = spec := rfl
    rw [runAll, map_id_invocations, hspec, heach]
    exact ⟨_, rfl, hcalls⟩
  obtain ⟨s', hrun, hhost⟩ := hall
  refine ⟨reports.foldl Summary.push (.start spec), s', hrun, ?_, ?_⟩
  · apply Summary.accounts_foldl_push
    · rw [hlength, List.length_map, length_entries, g.length_schedule]
    · intro i entry hi
      have hi' : i < g.identifiers.length := by
        rw [g.length_identifiers, ← g.length_schedule]
        exact (List.getElem?_eq_some_iff.mp hi).1
      have hentry : (entries g)[i]? = some (binding entry g.identifiers[i]) := by
        rw [entries_eq_zipWith, List.getElem?_zipWith, hi, List.getElem?_eq_getElem hi']
      have hid : ((entries g).map Prod.fst)[i]? = some (binding entry g.identifiers[i]).1 := by
        rw [List.getElem?_map, hentry, Option.map_some]
      obtain ⟨report, hreport, haccounts⟩ := hreports i _ _ hid
        (resolve_of_nodup spec separator g hd (List.mem_of_getElem? hentry))
      exact ⟨_, report, hid, hreport, haccounts.of_assignName⟩
  · rw [Summary.foldl_push]
    exact hhost

end Bridge

end Exemplar

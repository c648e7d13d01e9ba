import Exemplar.Proofs.Bridge.Requests
import Exemplar.Proofs.Report.Rendering

namespace Exemplar

variable {β σ : Type}

namespace Thread

/-- The events so far, oldest first. -/
def events (t : Thread σ) : List Event := t.trace.toList

@[simp] theorem events_emit (t : Thread σ) (e : Event) : (t.emit e).events = t.events ++ [e] :=
  Array.toList_push

@[simp] theorem events_emitAll (t : Thread σ) (es : List Event) :
    (t.emitAll es).events = t.events ++ es := by
  rw [emitAll]
  induction es generalizing t with
  | nil => rw [List.foldl_nil, List.append_nil]
  | cons e es ih => rw [List.foldl_cons, ih, events_emit, List.append_assoc, List.singleton_append]

theorem events_congr {t t' : Thread σ} (h : t.trace = t'.trace) : t.events = t'.events :=
  congrArg Array.toList h

end Thread

/-- Hooks and bodies leave the events to the engine. -/
def Silent (exec : β → Action σ) : Prop := ∀ code t, (exec code t).2.trace = t.trace

namespace Silent

variable {exec : β → Action σ} (h : Silent exec)

include h

theorem guarded (code : β) (t : Thread σ) : (guarded (exec code) t).2.events = t.events := by
  have hcode := h code { t with panicSite := none }
  rw [Exemplar.guarded]
  rcases hrun : exec code { t with panicSite := none } with ⟨v | p, t'⟩
  · rw [hrun] at hcode
    exact Thread.events_congr hcode
  · rw [hrun] at hcode
    exact Thread.events_congr hcode

theorem runBefore (hooks : List β) (t : Thread σ) : (runBefore exec hooks t).2.events = t.events := by
  induction hooks generalizing t with
  | nil => rfl
  | cons hook hooks ih =>
    have hhook := h.guarded hook t
    rw [Exemplar.runBefore]
    rcases hrun : Exemplar.guarded (exec hook) t with ⟨e | _, t'⟩
    · rw [hrun] at hhook
      exact hhook
    · rw [hrun] at hhook
      exact (ih t').trans hhook

theorem runAfter (hooks : List β) (v : Verdict) (t : Thread σ) :
    (runAfter exec hooks v t).2.events = t.events := by
  induction hooks generalizing v t with
  | nil => rfl
  | cons hook hooks ih =>
    rw [Exemplar.runAfter]
    exact (ih _ _).trans (h.guarded hook t)

theorem runBody (entry : Scheduled β) (v : Verdict) (t : Thread σ) :
    (entry.runBody exec v t).2.events = t.events := by
  unfold Scheduled.runBody
  split
  · exact h.guarded _ t
  · rfl

theorem run (entry : Scheduled β) (t : Thread σ) : (entry.run exec t).2.events = t.events := by
  rw [Scheduled.run, h.runAfter, h.runBody, h.runBefore]

end Silent

/-- What a subscriber learns of an invocation that ends, its failure kept by a collecting recorder. -/
def Outcome.events (spec id : String) : Outcome → List Event
  | passed => [.exampleRunning spec id, .examplePassed spec id]
  | failed f =>
    [.exampleRunning spec id, .exampleFailed spec id f.callsite f.message,
      .failureRecorded f.callsite expectedFailure]
  | pending => [.examplePending spec id]

/-- The events to which a report corresponds. -/
def ExampleReport.events (spec : String) (r : ExampleReport) : List Event :=
  match r.status with
  | .passed => [.exampleRunning spec r.invocation, .examplePassed spec r.invocation]
  | .failed =>
    .exampleRunning spec r.invocation :: r.failure.toList.flatMap fun f =>
      [.exampleFailed spec r.invocation ⟨f.file, f.line⟩ f.message,
        .failureRecorded ⟨f.file, f.line⟩ f.expected]
  | .pending => [.examplePending spec r.invocation]

theorem ExampleReport.events_ofOutcome (spec name id : String) (o : Outcome) :
    (ofOutcome name id o).events spec = o.events spec id := by
  cases o <;> rfl

/-- The level and the message of each event of an example that ended in this way. -/
def Status.heard : Status → List (Level × String)
  | passed => [(.debug, "running example"), (.debug, "example passed")]
  | failed => [(.debug, "running example"), (.warn, "example failed"), (.debug, "recording failure")]
  | pending => [(.info, "example pending")]

theorem ExampleReport.Consistent.heard {r : ExampleReport} (h : r.Consistent) (spec : String) :
    (r.events spec).map (fun e => (e.level, e.message)) = r.status.heard := by
  rcases h.cases with ⟨f, hs, hf⟩ | ⟨hs | hs, hf⟩
  · rw [events, hs, hf]
    rfl
  · rw [events, hs]
    rfl
  · rw [events, hs]
    rfl

namespace Summary

/-- The events of a run with this summary, from the first invocation on. -/
def events (s : Summary) : List Event :=
  (s.reports.mapIdx fun i r => .invocationGenerated s.spec r.invocation i) ++
    [.invocationsReady s.spec s.reports.length] ++
    s.reports.flatMap (·.events s.spec) ++ [.runFinished s.spec s.passed s.failed s.pending]

/-- Their levels and messages. -/
def heard (s : Summary) : List (Level × String) :=
  s.reports.map (fun _ => (.debug, "generated invocation")) ++ [(.debug, "invocation list ready")] ++
    s.reports.flatMap (·.status.heard) ++ [(.info, "spec run finished")]

theorem heard_eq {s : Summary} (h : ∀ r ∈ s.reports, r.Consistent) :
    s.events.map (fun e => (e.level, e.message)) = s.heard := by
  have hgenerated : (s.reports.mapIdx fun i r =>
      Event.invocationGenerated s.spec r.invocation i).map (fun e => (e.level, e.message)) =
      s.reports.map fun _ => (.debug, "generated invocation") := by
    apply List.ext_getElem
    · simp only [List.length_map, List.length_mapIdx]
    · intro i _ _
      simp only [List.getElem_map, List.getElem_mapIdx]
      rfl
  have hreports : (s.reports.flatMap (·.events s.spec)).map (fun e => (e.level, e.message)) =
      s.reports.flatMap (·.status.heard) := by
    rw [List.map_flatMap]
    exact List.flatMap_congr fun r hr => (h r hr).heard s.spec
  rw [events, List.map_append, List.map_append, List.map_append, hgenerated, hreports]
  rfl

end Summary

namespace Bridge

variable {exec : β → Action σ} (b : Bridge β)

section Runs

variable (h : Silent exec)

include h

/-- An invocation that is bound ends somehow, and its events are those of that end. -/
theorem run_collecting {id : String} {entry : Scheduled β} (hr : b.resolve id = .ok entry)
    (s : Stage σ (List RecordedFailure)) :
    ∃ o, (b.run exec collecting id s).1 = .ok o ∧
      (b.run exec collecting id s).2.thread.events = s.thread.events ++ o.events b.spec id := by
  rw [b.run_of_resolve exec hr, Scheduled.outcome, executed]
  cases entry.subject.body with
  | none => exact ⟨.pending, rfl, Thread.events_emit ..⟩
  | some body =>
    have hrun := h.run entry (s.thread.emit (.exampleRunning b.spec id))
    rw [Thread.events_emit] at hrun
    rcases hend : entry.run exec (s.thread.emit (.exampleRunning b.spec id)) with ⟨e | _, t⟩
    · rw [hend] at hrun
      let f := Failure.resolve e entry.subject.callsite
      refine ⟨.failed f, rfl, ?_⟩
      calc ((t.emit (.exampleFailed b.spec id f.callsite f.message)).emit
            (.failureRecorded f.callsite expectedFailure)).events
          = t.events ++ [.exampleFailed b.spec id f.callsite f.message] ++
            [.failureRecorded f.callsite expectedFailure] := by
            rw [Thread.events_emit, Thread.events_emit]
        _ = s.thread.events ++ (Outcome.failed f).events b.spec id := by
            rw [hrun, List.append_assoc, List.append_assoc]
            rfl
    · rw [hend] at hrun
      refine ⟨.passed, rfl, ?_⟩
      calc (t.emit (.examplePassed b.spec id)).events
          = t.events ++ [.examplePassed b.spec id] := Thread.events_emit ..
        _ = s.thread.events ++ Outcome.passed.events b.spec id := by
            rw [hrun, List.append_assoc]
            rfl

/-- Invocations that are bound are run to the last. Each gets its report, and the events are those of the
reports. -/
theorem runEach_collecting {ids : List String} (hr : ∀ id ∈ ids, ∃ entry, b.resolve id = .ok entry)
    (summary : Summary) (s : Stage σ (List RecordedFailure)) :
    ∃ reports : List ExampleReport,
      (b.runEach exec collecting ids summary s).1 = .ok (reports.foldl Summary.push summary) ∧
      (b.runEach exec collecting ids summary s).2.thread.events =
        s.thread.events ++ reports.flatMap (·.events b.spec) ∧
      reports.map ExampleReport.invocation = ids ∧ ∀ r ∈ reports, r.Consistent := by
  induction ids generalizing summary s with
  | nil => exact ⟨[], rfl, (List.append_nil _).symm, rfl, nofun⟩
  | cons id ids ih =>
    obtain ⟨⟨entry, hentry⟩, hrest⟩ := List.forall_mem_cons.mp hr
    obtain ⟨o, hok, hevents⟩ := b.run_collecting h hentry s
    let report := ExampleReport.ofOutcome
      (b.spec ++ ": " ++ entry.subject.fullDescription b.separator) id o
    have hnext := b.runNext_of_resolve exec hentry collecting summary s
    rw [hok] at hnext
    obtain ⟨reports, hresult, hafter, hids, hconsistent⟩ :=
      ih hrest (summary.push report) (b.run exec collecting id s).2
    have hstep : b.runEach exec collecting (id :: ids) summary s =
        b.runEach exec collecting ids (summary.push report) (b.run exec collecting id s).2 := by
      rw [runEach, hnext]
      rfl
    refine ⟨report :: reports, ?_, ?_, ?_, ?_⟩
    · rw [hstep, hresult, List.foldl_cons]
    · rw [hstep, hafter, hevents, List.flatMap_cons, List.append_assoc,
        ExampleReport.events_ofOutcome]
    · rw [List.map_cons, hids]
      cases o <;> rfl
    · exact List.forall_mem_cons.mpr ⟨ExampleReport.consistent_ofOutcome _ id o, hconsistent⟩

end Runs

/-- The invocations of a bridge over a group, told by reports of them. -/
theorem invocations_eq_mapIdx (spec separator : String) (g : Group β) {reports : List ExampleReport}
    (h : reports.map ExampleReport.invocation = (entries g).map Prod.fst) :
    (ofGroup spec separator g).1.invocations =
      reports.mapIdx fun i report => ⟨report.invocation, spec, i⟩ := by
  apply List.ext_getElem?
  intro i
  have hi : reports[i]?.map ExampleReport.invocation = (entries g)[i]?.map Prod.fst := by
    rw [← List.getElem?_map, h, List.getElem?_map]
  rw [getElem?_invocations, List.getElem?_mapIdx]
  calc (entries g)[i]?.map (fun entry => (⟨entry.1, spec, i⟩ : Invocation))
      = ((entries g)[i]?.map Prod.fst).map (fun id => ⟨id, spec, i⟩) := by rw [Option.map_map]; rfl
    _ = (reports[i]?.map ExampleReport.invocation).map (fun id => ⟨id, spec, i⟩) := by rw [hi]
    _ = reports[i]?.map (fun report => ⟨report.invocation, spec, i⟩) := by rw [Option.map_map]; rfl

theorem creationEvents_eq_mapIdx {b : Bridge β} {reports : List ExampleReport}
    (h : b.invocations = reports.mapIdx fun i report => ⟨report.invocation, b.spec, i⟩) :
    b.creationEvents =
      (reports.mapIdx fun i report => Event.invocationGenerated b.spec report.invocation i) ++
        [.invocationsReady b.spec reports.length] := by
  have hgenerated : b.invocations.map (fun i => Event.invocationGenerated i.spec i.id i.index) =
      reports.mapIdx fun i report => Event.invocationGenerated b.spec report.invocation i := by
    rw [h]
    apply List.ext_getElem?
    intro i
    rw [List.getElem?_map, List.getElem?_mapIdx, List.getElem?_mapIdx, Option.map_map]
    rfl
  rw [creationEvents, hgenerated, h, List.length_mapIdx]

/-- From the making of a bridge to the end of a run of all its invocations, the events are those of the
summary. -/
theorem runAll_collecting (h : Silent exec) (spec separator : String) (g : Group β) (t : Thread σ)
    (host : List RecordedFailure) :
    let b := (ofGroup spec separator g).1
    let ran := b.runAll exec collecting ⟨t.emitAll b.creationEvents, host⟩
    ∃ summary, ran.1 = .ok summary ∧ summary.spec = spec ∧
      ran.2.thread.events = t.events ++ summary.events ∧
      b.invocations = summary.reports.mapIdx (fun i report => ⟨report.invocation, spec, i⟩) ∧
      summary.reports.length = g.exampleCount ∧ ∀ r ∈ summary.reports, r.Consistent := by
  intro b ran
  have hbound : ∀ id ∈ b.invocations.map Invocation.id, ∃ entry, b.resolve id = .ok entry :=
    fun id hid => (matched_ofGroup spec separator g id).mpr hid
  obtain ⟨reports, hresult, hevents, hids, hconsistent⟩ :=
    b.runEach_collecting h hbound (.start spec) ⟨t.emitAll b.creationEvents, host⟩
  let summary := reports.foldl Summary.push (.start spec)
  have hreports : summary.reports = reports := by
    simp only [summary, Summary.foldl_push, Summary.start, List.nil_append]
  have hspec : summary.spec = spec := by
    simp only [summary, Summary.foldl_push, Summary.start]
  have hran : ran.1 = .ok summary ∧ ran.2.thread.events = t.events ++ b.creationEvents ++
      reports.flatMap (·.events spec) ++
        [.runFinished summary.spec summary.passed summary.failed summary.pending] := by
    simp only [ran, runAll]
    rcases heach : b.runEach exec collecting (b.invocations.map Invocation.id) (.start spec)
      ⟨t.emitAll b.creationEvents, host⟩ with ⟨result, s⟩
    rw [heach] at hresult hevents
    obtain rfl : result = .ok summary := hresult
    have hb : b.spec = spec := rfl
    rw [hb, heach]
    refine ⟨rfl, (Thread.events_emit ..).trans ?_⟩
    rw [hevents, Thread.events_emitAll, hb]
  obtain ⟨hok, hafter⟩ := hran
  rw [map_id_invocations] at hids
  have hinvocations := invocations_eq_mapIdx spec separator g hids
  have hcreation : b.creationEvents = _ := creationEvents_eq_mapIdx hinvocations
  refine ⟨summary, hok, hspec, ?_, ?_, ?_, ?_⟩
  · rw [hafter, Summary.events, hspec, hreports, hcreation]
    simp only [List.append_assoc]
    rfl
  · rw [hreports]
    exact hinvocations
  · have hlength := congrArg List.length hids
    rw [List.length_map, List.length_map, length_entries] at hlength
    rw [hreports, hlength]
  · rw [hreports]
    exact hconsistent

end Bridge

end Exemplar

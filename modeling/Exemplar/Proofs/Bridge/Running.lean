import Exemplar.Proofs.Bridge.Binding
import Exemplar.Registry.Run

namespace Exemplar

variable {β σ ρ ρ' : Type}

/-- How an example ends on a thread. -/
def Scheduled.outcome (exec : β → Action σ) (entry : Scheduled β) (t : Thread σ) : Outcome :=
  match entry.subject.body with
  | none => .pending
  | some _ =>
    match (entry.run exec t).1 with
    | .ok () => .passed
    | .error e => .failed (.resolve e entry.subject.callsite)

namespace Recorder

/-- Every failure is taken. -/
def Accepts (recorder : Recorder ρ) : Prop :=
  ∀ message file line expected host trace, (recorder message file line expected host trace).1 = .ok ()

/-- The recorder with a note of each call that it gets. -/
def noting (recorder : Recorder ρ) : Recorder (ρ × List RecordedFailure) :=
  fun message file line expected (host, calls) trace =>
    let (answer, host, trace) := recorder message file line expected host trace
    (answer, (host, calls ++ [⟨message, file, line, expected⟩]), trace)

/-- What the one recorder makes of a state, the other makes of its image. -/
def Follows (φ : ρ → ρ') (recorder : Recorder ρ) (recorder' : Recorder ρ') : Prop :=
  ∀ message file line expected host trace,
    recorder' message file line expected (φ host) trace =
      ((recorder message file line expected host trace).1,
        φ (recorder message file line expected host trace).2.1,
        (recorder message file line expected host trace).2.2)

theorem noting_follows (recorder : Recorder ρ) : Follows Prod.fst recorder.noting recorder :=
  fun _ _ _ _ _ _ => rfl

theorem Accepts.noting {recorder : Recorder ρ} (h : recorder.Accepts) : recorder.noting.Accepts :=
  fun message file line expected host trace => h message file line expected host.1 trace

end Recorder

namespace Stage

/-- The stage with another state of the host. -/
def mapHost (φ : ρ → ρ') (s : Stage σ ρ) : Stage σ ρ' := ⟨s.thread, φ s.host⟩

theorem report_mapHost {φ : ρ → ρ'} {recorder : Recorder ρ} {recorder' : Recorder ρ'}
    (h : recorder.Follows φ recorder') (f : Failure) (s : Stage σ ρ) :
    (s.mapHost φ).report recorder' f =
      ((s.report recorder f).1, (s.report recorder f).2.mapHost φ) := by
  simp only [report, mapHost, h f.message f.callsite.file f.callsite.line]

/-- The recorder is told what the record of the failure says. -/
theorem report_noting (recorder : Recorder ρ) (f : Failure) (s : Stage σ (ρ × List RecordedFailure)) :
    (s.report recorder.noting f).2.host.2 = s.host.2 ++ [f.recorded] := rfl

end Stage

/-- Tells the recorder of a failure, if there is one. -/
def Outcome.settle (recorder : Recorder ρ) : Outcome → Stage σ ρ →
    Except SpecError Outcome × Stage σ ρ
  | passed, s => (.ok passed, s)
  | pending, s => (.ok pending, s)
  | failed f, s =>
    match s.report recorder f with
    | (.ok (), s) => (.ok (failed f), s)
    | (.error e, s) => (.error (.report e), s)

theorem Outcome.settle_mapHost {φ : ρ → ρ'} {recorder : Recorder ρ} {recorder' : Recorder ρ'}
    (h : recorder.Follows φ recorder') (o : Outcome) (s : Stage σ ρ) :
    o.settle recorder' (s.mapHost φ) = ((o.settle recorder s).1, (o.settle recorder s).2.mapHost φ) := by
  cases o with
  | passed => rfl
  | pending => rfl
  | failed f =>
    rw [settle, settle, Stage.report_mapHost h]
    rcases s.report recorder f with ⟨_ | _, s'⟩ <;> rfl

/-- A recorder that takes every failure is told of the failure once, and the outcome stands. -/
theorem Outcome.settle_noting {recorder : Recorder ρ} (h : recorder.Accepts) (o : Outcome)
    (s : Stage σ (ρ × List RecordedFailure)) :
    (o.settle recorder.noting s).1 = .ok o ∧
      (o.settle recorder.noting s).2.host.2 =
        s.host.2 ++ (o.failure?.map Failure.recorded).toList := by
  cases o with
  | passed => exact ⟨rfl, (List.append_nil _).symm⟩
  | pending => exact ⟨rfl, (List.append_nil _).symm⟩
  | failed f =>
    have hnote := Stage.report_noting recorder f s
    have hok : (s.report recorder.noting f).1 = .ok () := h.noting _ _ _ _ _ _
    rw [settle]
    rcases hr : s.report recorder.noting f with ⟨answer, s'⟩
    rw [hr] at hnote hok
    obtain rfl : answer = .ok () := hok
    exact ⟨rfl, hnote⟩

namespace Bridge

variable (exec : β → Action σ) (b : Bridge β)

/-- The stage after the example of an invocation was run, before the recorder is told anything. -/
def executed (id : String) (entry : Scheduled β) (s : Stage σ ρ) : Stage σ ρ :=
  match entry.subject.body with
  | none => s.emit (.examplePending b.spec id)
  | some _ =>
    match entry.run exec (s.thread.emit (.exampleRunning b.spec id)) with
    | (.ok (), t) => ⟨t.emit (.examplePassed b.spec id), s.host⟩
    | (.error e, t) =>
      let f := Failure.resolve e entry.subject.callsite
      ⟨t.emit (.exampleFailed b.spec id f.callsite f.message), s.host⟩

theorem executed_mapHost (φ : ρ → ρ') (id : String) (entry : Scheduled β) (s : Stage σ ρ) :
    b.executed exec id entry (s.mapHost φ) = (b.executed exec id entry s).mapHost φ := by
  simp only [executed, Stage.mapHost]
  cases entry.subject.body with
  | none => rfl
  | some body =>
    rcases entry.run exec (s.thread.emit (.exampleRunning b.spec id)) with ⟨_ | _, t⟩ <;> rfl

theorem executed_host (id : String) (entry : Scheduled β) (s : Stage σ ρ) :
    (b.executed exec id entry s).host = s.host := by
  rw [executed]
  cases entry.subject.body with
  | none => rfl
  | some body =>
    rcases entry.run exec (s.thread.emit (.exampleRunning b.spec id)) with ⟨_ | _, t⟩ <;> rfl

/-- Running an invocation executes its example and settles the outcome with the recorder. -/
theorem run_of_resolve {id : String} {entry : Scheduled β} (h : b.resolve id = .ok entry)
    (recorder : Recorder ρ) (s : Stage σ ρ) :
    b.run exec recorder id s =
      (entry.outcome exec (s.thread.emit (.exampleRunning b.spec id))).settle recorder
        (b.executed exec id entry s) := by
  have hthread : (s.emit (.exampleRunning b.spec id)).thread =
      s.thread.emit (.exampleRunning b.spec id) := rfl
  rw [run, h]
  cases hb : entry.subject.body with
  | none => simp only [Example.isPending, hb, Scheduled.outcome, executed]; rfl
  | some body =>
    simp only [Example.isPending, hb, runEntry, hthread, Scheduled.outcome, executed]
    rcases entry.run exec (s.thread.emit (.exampleRunning b.spec id)) with ⟨_ | _, t⟩ <;> rfl

/-- A run depends on the recorder only through what it answers. -/
theorem run_mapHost {φ : ρ → ρ'} {recorder : Recorder ρ} {recorder' : Recorder ρ'}
    (h : recorder.Follows φ recorder') (id : String) (s : Stage σ ρ) :
    b.run exec recorder' id (s.mapHost φ) =
      ((b.run exec recorder id s).1, (b.run exec recorder id s).2.mapHost φ) := by
  cases hr : b.resolve id with
  | error e => simp only [run, hr]
  | ok entry =>
    rw [b.run_of_resolve exec hr, b.run_of_resolve exec hr, executed_mapHost]
    exact Outcome.settle_mapHost h _ _

end Bridge

end Exemplar

import Exemplar.Bridge.Basic

namespace Exemplar

variable {β σ ρ : Type}

inductive Outcome where
  | passed
  | failed (f : Failure)
  | pending
  deriving DecidableEq, Repr

namespace Outcome

def isPassed : Outcome → Bool
  | passed => true
  | _ => false

def failure? : Outcome → Option Failure
  | failed f => some f
  | _ => none

end Outcome

/-- The host's side of failure reporting: it is told the message of a failure, the file and line to
which it is attributed and whether it was expected, changes its own state, may emit events, and may
refuse. -/
abbrev Recorder (ρ : Type) :=
  String → String → UInt32 → Bool → ρ → Trace → Except ReportError Unit × ρ × Trace

/-- A failure that an example raised is never an expected one. -/
def expectedFailure : Bool := false

/-- Keeps every failure, in order. -/
def collecting : Recorder (List RecordedFailure) := fun message file line expected kept trace =>
  (.ok (), kept ++ [⟨message, file, line, expected⟩],
    trace.push (.failureRecorded ⟨file, line⟩ expected))

/-- Keeps failures until it holds as many as it accepts, and refuses all others with the same
message. -/
def acceptingAtMost (limit : Nat) (message : String) : Recorder (List RecordedFailure) :=
  fun told file line expected kept trace =>
    if kept.length < limit then collecting told file line expected kept trace
    else (.error ⟨message⟩, kept, trace)

/-- A thread together with the state of a host's recorder. -/
structure Stage (σ ρ : Type) where
  thread : Thread σ
  host : ρ

namespace Stage

def emit (s : Stage σ ρ) (e : Event) : Stage σ ρ := { s with thread := s.thread.emit e }

def report (recorder : Recorder ρ) (f : Failure) (s : Stage σ ρ) :
    Except ReportError Unit × Stage σ ρ :=
  let (answer, host, trace) :=
    recorder f.message f.callsite.file f.callsite.line expectedFailure s.host s.thread.trace
  (answer, { thread := { s.thread with trace }, host })

end Stage

namespace Bridge

/-- Runs an example that has a body, and reports its failure. -/
def runEntry (exec : β → Action σ) (recorder : Recorder ρ) (b : Bridge β) (id : String)
    (entry : Scheduled β) (s : Stage σ ρ) : Except SpecError Outcome × Stage σ ρ :=
  let s := s.emit (.exampleRunning b.spec id)
  match entry.run exec s.thread with
  | (.ok (), thread) =>
    (.ok .passed, { s with thread := thread.emit (.examplePassed b.spec id) })
  | (.error error, thread) =>
    let f := Failure.resolve error entry.subject.callsite
    let s := { s with thread := thread.emit (.exampleFailed b.spec id f.callsite f.message) }
    match s.report recorder f with
    | (.ok (), s) => (.ok (.failed f), s)
    | (.error e, s) => (.error (.report e), s)

/-- Runs the invocation with the given identifier. A pending example is not run. -/
def run (exec : β → Action σ) (recorder : Recorder ρ) (b : Bridge β) (id : String)
    (s : Stage σ ρ) : Except SpecError Outcome × Stage σ ρ :=
  match b.resolve id with
  | .error e => (.error e, s)
  | .ok entry =>
    if entry.subject.isPending then (.ok .pending, s.emit (.examplePending b.spec id))
    else b.runEntry exec recorder id entry s

def runCurrent (exec : β → Action σ) (recorder : Recorder ρ) (b : Bridge β) (s : Stage σ ρ) :
    Except SpecError Outcome × Stage σ ρ :=
  match b.currentId with
  | .ok id => b.run exec recorder id s
  | .error e => (.error e, s)

end Bridge

end Exemplar

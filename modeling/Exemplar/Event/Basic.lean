import Exemplar.Callsite
import Exemplar.Config.Basic
import Exemplar.SpecError

namespace Exemplar

inductive Level where
  | error
  | warn
  | info
  | debug
  | trace
  deriving DecidableEq, Repr, Inhabited

namespace Level

/-- The most urgent level is 1, the least urgent 5. -/
def rank : Level → Nat
  | error => 1
  | warn => 2
  | info => 3
  | debug => 4
  | trace => 5

def label : Level → String
  | error => "ERROR"
  | warn => "WARN"
  | info => "INFO"
  | debug => "DEBUG"
  | trace => "TRACE"

end Level

/-- The value of a field. Text that was only put into a sentence is kept apart from text that is a
value in its own right: a log line quotes the second. -/
inductive FieldValue where
  | text (s : String)
  | shown (s : String)
  | count (n : Nat)
  | flag (b : Bool)
  deriving DecidableEq, Repr

inductive Event where
  /-- A spec is asked for the first time. -/
  | registering (spec : String)
  | compiling (spec : String)
  | compiled (spec : String) (examples : Nat)
  | compilationFailed (spec : String) (error : SpecError)
  /-- An example was given an invocation. -/
  | invocationGenerated (spec invocation : String) (index : Nat)
  | invocationsReady (spec : String) (invocations : Nat)
  | examplePending (spec invocation : String)
  | exampleRunning (spec invocation : String)
  | examplePassed (spec invocation : String)
  | exampleFailed (spec invocation : String) (callsite : Callsite) (reason : String)
  /-- A collecting recorder takes a failure. -/
  | failureRecorded (callsite : Callsite) (expected : Bool)
  | runFinished (spec : String) (passed failed pending : Nat)
  | telemetryReady (spec : String) (format : LogFormat)
  deriving DecidableEq, Repr

namespace Event

def level : Event → Level
  | compilationFailed .. => .error
  | exampleFailed .. => .warn
  | examplePending .. | runFinished .. => .info
  | _ => .debug

def worldTarget : String := "sprout::world"

def bridgeTarget : String := "sprout::bridge"

def harnessTarget : String := "sprout::harness"

def target : Event → String
  | registering .. | compiling .. | compiled .. | compilationFailed .. => worldTarget
  | failureRecorded .. | runFinished .. | telemetryReady .. => harnessTarget
  | _ => bridgeTarget

def message : Event → String
  | registering .. => "registering spec root"
  | compiling .. => "compiling example tree"
  | compiled .. => "example tree compiled"
  | compilationFailed .. => "example tree compilation failed"
  | invocationGenerated .. => "generated invocation"
  | invocationsReady .. => "invocation list ready"
  | examplePending .. => "example pending"
  | exampleRunning .. => "running example"
  | examplePassed .. => "example passed"
  | exampleFailed .. => "example failed"
  | failureRecorded .. => "recording failure"
  | runFinished .. => "spec run finished"
  | telemetryReady .. => "telemetry ready"

/-- The fields, in the order in which a log line shows them. -/
def fields : Event → List (String × FieldValue)
  | registering spec | compiling spec => [("spec", .text spec)]
  | compiled spec examples => [("spec", .text spec), ("examples", .count examples)]
  | compilationFailed spec error => [("spec", .text spec), ("error", .shown error.message)]
  | invocationGenerated spec invocation index =>
    [("spec", .text spec), ("invocation", .shown invocation), ("index", .count index)]
  | invocationsReady spec invocations =>
    [("spec", .text spec), ("invocations", .count invocations)]
  | examplePending spec invocation | exampleRunning spec invocation
  | examplePassed spec invocation => [("spec", .text spec), ("invocation", .shown invocation)]
  | exampleFailed spec invocation callsite reason =>
    [("spec", .text spec), ("invocation", .shown invocation),
      ("callsite", .shown callsite.display), ("reason", .text reason)]
  | failureRecorded callsite expected =>
    [("file", .text callsite.file), ("line", .count callsite.line.toNat),
      ("expected", .flag expected)]
  | runFinished spec passed failed pending =>
    [("spec", .text spec), ("passed", .count passed), ("failed", .count failed),
      ("pending", .count pending)]
  | telemetryReady spec format => [("spec", .text spec), ("format", .shown format.name)]

end Event

abbrev Trace := Array Event

end Exemplar

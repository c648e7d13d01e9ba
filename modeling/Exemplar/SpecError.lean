import Exemplar.Text.Inspection

namespace Exemplar

open Text (Inspection)

/-- The host's channel for failures did not accept one. -/
structure ReportError where
  message : String
  deriving DecidableEq, Repr, Inhabited

inductive SpecError where
  | compilation (spec message : String)
  /-- The bridge has no example for the invocation. -/
  | unboundInvocation (spec invocation : String)
  | noCurrentInvocation (spec : String)
  | report (error : ReportError)
  deriving DecidableEq, Repr, Inhabited

namespace SpecError

def message : SpecError → String
  | compilation spec message =>
    spec ++ ": an error was raised while building the example tree: " ++ message ++
      ". An expectation was most likely evaluated outside of an `it` block; " ++
      "move it into an example body"
  | unboundInvocation spec invocation =>
    spec ++ ": invocation '" ++ invocation ++ "' has no bound example"
  | noCurrentInvocation spec => spec ++ ": no invocation is currently executing"
  | report error => "failed to record failure: " ++ error.message

def inspect : SpecError → Inspection
  | compilation spec message =>
    .record "Compilation" [("spec", .text spec), ("message", .text message)] true
  | unboundInvocation spec invocation =>
    .record "UnboundInvocation" [("spec", .text spec), ("invocation", .text invocation)] true
  | noCurrentInvocation spec => .record "NoCurrentInvocation" [("spec", .text spec)] true
  | report error =>
    .tuple "Report" [.record "ReportError" [("message", .text error.message)] true]

/-- The host's error behind this one, if that is where it comes from. -/
def reportError? : SpecError → Option ReportError
  | report error => some error
  | _ => none

end SpecError

end Exemplar

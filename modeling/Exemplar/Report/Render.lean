import Exemplar.Report.Summary
import Exemplar.Text.Json.Writer

namespace Exemplar

open Text (Json)

/-- The line of one example: a mark for its status, its name, and what went wrong. -/
def ExampleReport.display (r : ExampleReport) : String :=
  match r.status, r.failure with
  | .failed, some f =>
    "  ✗ " ++ r.name ++ " (" ++ f.file ++ ":" ++ toString f.line.toNat ++ ": " ++ f.message ++ ")"
  | .failed, none => "  ✗ " ++ r.name
  | .passed, _ => "  ✓ " ++ r.name
  | .pending, _ => "  - " ++ r.name ++ " (pending)"

def Summary.totals (s : Summary) : String :=
  toString s.passed ++ " passed, " ++ toString s.failed ++ " failed, " ++ toString s.pending ++
    " pending"

/-- The name of the spec, a line for each example, and the totals behind an empty line. -/
def Summary.display (s : Summary) : String :=
  s.spec ++ "\n" ++ String.join (s.reports.map fun r => r.display ++ "\n") ++ "\n" ++ s.totals ++ "\n"

def Status.name : Status → String
  | passed => "passed"
  | failed => "failed"
  | pending => "pending"

def RecordedFailure.toJson (f : RecordedFailure) : Json :=
  .ofMembers
    [("message", .ofString f.message), ("file", .ofString f.file), ("line", .ofNat f.line.toNat),
      ("expected", .bool f.expected)]

/-- The member for the failure is there only if the example failed. -/
def ExampleReport.toJson (r : ExampleReport) : Json :=
  .ofMembers
    ([("name", .ofString r.name), ("invocation", .ofString r.invocation),
      ("status", .ofString r.status.name)] ++
      r.failure.toList.map fun f => ("failure", f.toJson))

def Summary.toJson (s : Summary) : Json :=
  .ofMembers
    [("spec", .ofString s.spec), ("reports", .array (s.reports.map ExampleReport.toJson)),
      ("passed", .ofNat s.passed), ("failed", .ofNat s.failed), ("pending", .ofNat s.pending)]

def Summary.encode (s : Summary) : String := s.toJson.render

end Exemplar

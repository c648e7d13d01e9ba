import Exemplar.Bridge.Run

namespace Exemplar

inductive Status where
  | passed
  | failed
  | pending
  deriving DecidableEq, Repr

structure ExampleReport where
  name : String
  invocation : String
  status : Status
  failure : Option RecordedFailure
  deriving DecidableEq, Repr

namespace ExampleReport

def ofOutcome (name invocation : String) : Outcome → ExampleReport
  | .passed => ⟨name, invocation, .passed, none⟩
  | .failed f => ⟨name, invocation, .failed, some f.recorded⟩
  | .pending => ⟨name, invocation, .pending, none⟩

end ExampleReport

/-- The reports of a run in the order in which the examples ran, and how many there are of each
status. -/
structure Summary where
  spec : String
  reports : List ExampleReport
  passed : Nat
  failed : Nat
  pending : Nat
  deriving DecidableEq, Repr

namespace Summary

def start (spec : String) : Summary := ⟨spec, [], 0, 0, 0⟩

def push (s : Summary) (r : ExampleReport) : Summary :=
  let s := { s with reports := s.reports ++ [r] }
  match r.status with
  | .passed => { s with passed := s.passed + 1 }
  | .failed => { s with failed := s.failed + 1 }
  | .pending => { s with pending := s.pending + 1 }

def isSuccess (s : Summary) : Bool := s.failed == 0

end Summary

end Exemplar

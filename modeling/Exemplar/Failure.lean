import Exemplar.Callsite

namespace Exemplar

open Text (Inspection)

/-- What a hook or body hands back when it fails: a message and, if known, where it went wrong. -/
structure ExampleError where
  message : String
  location : Option Callsite
  deriving DecidableEq, Repr, Inhabited

namespace ExampleError

def ofMessage (message : String) : ExampleError := ⟨message, none⟩

def located (message : String) (location : Callsite) : ExampleError := ⟨message, some location⟩

def inspect (e : ExampleError) : Inspection :=
  .record "ExampleError"
    [("message", .text e.message), ("location", .option (e.location.map Callsite.inspect))] true

end ExampleError

/-- An error together with the place to which it is attributed. -/
structure Failure where
  error : ExampleError
  callsite : Callsite
  deriving DecidableEq, Repr, Inhabited

namespace Failure

/-- The error's own place, or else the example's definition. -/
def resolve (error : ExampleError) (definition : Callsite) : Failure :=
  ⟨error, error.location.getD definition⟩

def message (f : Failure) : String := f.error.message

def inspect (f : Failure) : Inspection :=
  .record "Failure" [("error", f.error.inspect), ("callsite", f.callsite.inspect)] true

end Failure

structure RecordedFailure where
  message : String
  file : String
  line : UInt32
  expected : Bool
  deriving DecidableEq, Repr, Inhabited

def Failure.recorded (f : Failure) : RecordedFailure :=
  ⟨f.message, f.callsite.file, f.callsite.line, false⟩

end Exemplar

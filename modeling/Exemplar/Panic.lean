import Exemplar.Event.Basic
import Exemplar.Failure

/-!
Running code that belongs to a user. Such code ends by returning or by a panic. A panic that is
raised in the usual way leaves its location in a slot of the thread before the code unwinds, and the
slot keeps the latest of them whoever catches the panic. `guarded` empties the slot before it runs
the code, so what it finds there after an uncaught panic belongs to that panic.
-/

namespace Exemplar

/-- What a panic carries: text, or a value that is no text. The value is dropped where the panic is
caught, and what this does to the thread might as well be done by code that returns the error. A
destructor that panics in its turn is user code of its own, neither a name, a declaration, a hook nor a
body. -/
inductive Payload where
  | text (s : String)
  | nonText
  deriving DecidableEq, Repr, Inhabited

def Payload.message : Payload → String
  | text s => s
  | nonText => "panicked with a non-string payload"

abbrev Verdict := Except ExampleError Unit

inductive Ending where
  | returned (v : Verdict)
  | panicked (p : Payload)
  deriving Repr

/-- A thread: whatever user code reads and writes, the location of the latest panic, and the events
emitted so far. -/
structure Thread (σ : Type) where
  user : σ
  panicSite : Option Callsite
  trace : Trace

abbrev Action (σ : Type) := Thread σ → Ending × Thread σ

namespace Thread

variable {σ : Type}

def fresh (user : σ) : Thread σ := ⟨user, none, #[]⟩

def emit (t : Thread σ) (e : Event) : Thread σ := { t with trace := t.trace.push e }

def emitAll (t : Thread σ) (es : List Event) : Thread σ := es.foldl emit t

/-- Notes where a panic was raised. One that only resumes an earlier panic has no place. -/
def notePanic (t : Thread σ) (site : Option Callsite) : Thread σ :=
  match site with
  | some site => { t with panicSite := some site }
  | none => t

end Thread

/-- Runs user code and turns an uncaught panic into an error at the place where it was raised. -/
def guarded {σ : Type} (code : Action σ) (t : Thread σ) : Verdict × Thread σ :=
  match code { t with panicSite := none } with
  | (.returned v, t) => (v, t)
  | (.panicked p, t) => (.error ⟨p.message, t.panicSite⟩, { t with panicSite := none })

end Exemplar

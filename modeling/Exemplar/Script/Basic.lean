import Exemplar.Declaration.Program

namespace Exemplar

inductive Act where
  | succeed
  | fail (e : ExampleError)
  /-- A panic; without a site it has no place. -/
  | panic (payload : Payload) (site : Option Callsite)
  /-- Panics unless the two numbers are equal. -/
  | assertEqual (left right : Int) (message : Option String) (site : Callsite)
  /-- Performs an act, swallows its error or panic, and goes on. -/
  | swallow (first next : Act)
  /-- Runs another spec in a registry of its own, logs how that went, and goes on. -/
  | nested (spec : Nat) (next : Act)
  | log (line : String) (next : Act)
  deriving Repr, Inhabited

/-- A scripted hook or body: a line that every call logs, and an act for each call. The last act
serves all further calls; with no act at all every call succeeds. -/
structure Script where
  logLine : Option String
  acts : List Act
  deriving Repr, Inhabited

def Script.actAt (s : Script) (call : Nat) : Act :=
  (s.acts[min call (s.acts.length - 1)]?).getD .succeed

/-- A script as it was registered. Each registration has a number of its own, and so counts its calls
by itself. -/
structure Closure where
  number : Nat
  script : Script
  deriving Repr, Inhabited

/-- A side effect of a declaration: a line for the log, or the inspection text of the builder. -/
inductive Note where
  | line (s : String)
  | builder (indented : Bool)
  deriving Repr, DecidableEq

def assertionMessage (left right : Int) (message : Option String) : String :=
  "assertion `left == right` failed" ++ (message.map (": " ++ ·)).getD "" ++
    "\n  left: " ++ toString left ++ "\n right: " ++ toString right

/-- A declaration that panics unless two numbers are equal. -/
def Program.assertEqual {β ν : Type} (left right : Int) (message : Option String)
    (site : Callsite) : Program β ν :=
  if left = right then done else panic (.text (assertionMessage left right message)) (some site)

/-- What a definition says about a spec: its name, if it has one, and its declaration. -/
structure Definition where
  name : Option String
  declaration : Program Script Note
  deriving Inhabited

def Definition.blank : Definition := ⟨none, .done⟩

/-- What scripts read and write: a log, and the number of calls of each closure. -/
structure Store where
  log : Array String
  calls : Array Nat
  deriving Repr, Inhabited

namespace Store

def empty : Store := ⟨#[], #[]⟩

def addLine (s : Store) (line : String) : Store := { s with log := s.log.push line }

def reserve (s : Store) (n : Nat) : Store := { s with calls := s.calls ++ Array.replicate n 0 }

def countCall (s : Store) (number : Nat) : Store := { s with calls := s.calls.modify number (· + 1) }

end Store

def Thread.logLine (t : Thread Store) (line : String) : Thread Store :=
  { t with user := t.user.addLine line }

end Exemplar

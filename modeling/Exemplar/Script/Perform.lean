import Exemplar.Declaration.Inspect
import Exemplar.Registry.Run
import Exemplar.Report.Render
import Exemplar.Script.Basic

namespace Exemplar

def Act.perform (nested : Nat → Thread Store → Option Payload × Thread Store) : Act → Action Store
  | succeed, t => (.returned (.ok ()), t)
  | fail e, t => (.returned (.error e), t)
  | panic payload site, t => (.panicked payload, t.notePanic site)
  | assertEqual left right message site, t =>
    if left = right then (.returned (.ok ()), t)
    else (.panicked (.text (assertionMessage left right message)), t.notePanic (some site))
  | swallow first next, t => next.perform nested (first.perform nested t).2
  | .nested spec next, t =>
    match nested spec t with
    | (some payload, t) => (.panicked payload, t)
    | (none, t) => next.perform nested t
  | log line next, t => next.perform nested (t.logLine line)

/-- Calls a closure: counts the call, logs, and performs the act that is due. -/
def Closure.call (nested : Nat → Thread Store → Option Payload × Thread Store) (c : Closure) :
    Action Store := fun t =>
  let act := c.script.actAt (t.user.calls[c.number]?.getD 0)
  let t := { t with user := t.user.countCall c.number }
  let t := match c.script.logLine with
    | some line => t.logLine line
    | none => t
  act.perform nested t

def Note.perform (note : Note) (b : Builder Closure) (t : Thread Store) : Thread Store :=
  match note with
  | line s => t.logLine s
  | builder indented => t.logLine (if indented then b.inspect.indented else b.inspect.oneLine)

namespace Definition

/-- The name, or the panic of a spec that has none. -/
def nameOr (d : Definition) (key : Nat) : Except Payload String :=
  match d.name with
  | some name => .ok name
  | none => .error (.text ("spec " ++ toString key ++ " has no name"))

/-- Registers all hooks and bodies anew and runs the declaration. -/
def declare (d : Definition) (b : Builder Closure) (t : Thread Store) :
    Option Payload × Builder Closure × Thread Store :=
  let first := t.user.calls.size
  let (program, next) := d.declaration.numbered Closure.mk first
  program.run Note.perform b { t with user := t.user.reserve (next - first) }

theorem declare_grows (d : Definition) (b : Builder Closure) (t : Thread Store) :
    b.Grows (d.declare b t).2.1 :=
  Program.run_grows _ _ .same _

def spec (d : Definition) (key : Nat) : Spec Closure Store :=
  ⟨key, d.nameOr key, d.declare, d.declare_grows⟩

end Definition

abbrev Definitions := Nat → Definition

/-- Runs a spec in a registry of its own with the default settings, and logs the summary or the
error. -/
def runNested (exec : Closure → Action Store) (definitions : Definitions) (key : Nat)
    (t : Thread Store) : Option Payload × Thread Store :=
  match Registry.empty.runSpec exec ((definitions key).spec key) .default t with
  | (.ok summary, _, t) => (none, t.logLine summary.display)
  | (.error (.failed e), _, t) => (none, t.logLine e.message)
  | (.error (.panicked payload), _, t) => (some payload, t)

/-- Calls a closure whose nested runs are at most `depth` deep. -/
def Closure.exec (definitions : Definitions) : Nat → Closure → Action Store
  | 0, c => c.call fun _ t => (some .nonText, t)
  | depth + 1, c => c.call (runNested (exec definitions depth) definitions)

end Exemplar

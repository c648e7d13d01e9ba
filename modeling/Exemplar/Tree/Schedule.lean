import Exemplar.Panic
import Exemplar.Tree.Basic

/-!
The schedule of a tree pairs each example with the hooks of the groups around it, and running an
entry of it calls hooks and body in order: the hooks before it up to the first that raises, the body
if none of them did, and every hook after it in any case. The first error is the result.
-/

namespace Exemplar

variable {β σ : Type}

/-- An example with the hooks that run around it, in the order in which they run. -/
structure Scheduled (β : Type) where
  subject : Example β
  before : List β
  after : List β

/-- The examples beneath, given the hooks that the groups around them bring: before an example the
outermost group comes first, after it the innermost. -/
def Children.schedule (before after : List β) : Children β → List (Scheduled β)
  | nil => []
  | leaf e rest => ⟨e, before, after⟩ :: rest.schedule before after
  | branch _ members ownBefore ownAfter rest =>
    members.schedule (before ++ ownBefore) (ownAfter ++ after) ++ rest.schedule before after

def Group.schedule (g : Group β) : List (Scheduled β) := g.children.schedule g.before g.after

/-- Calls hooks until one raises. -/
def runBefore (exec : β → Action σ) : List β → Thread σ → Verdict × Thread σ
  | [], t => (.ok (), t)
  | hook :: hooks, t =>
    match guarded (exec hook) t with
    | (.ok (), t) => runBefore exec hooks t
    | (.error e, t) => (.error e, t)

/-- Calls all hooks. An error of theirs counts if nothing has raised before it. -/
def runAfter (exec : β → Action σ) : List β → Verdict → Thread σ → Verdict × Thread σ
  | [], v, t => (v, t)
  | hook :: hooks, v, t =>
    let (w, t) := guarded (exec hook) t
    runAfter exec hooks (match v with | .ok () => w | .error e => .error e) t

namespace Scheduled

/-- Calls the body, unless a hook raised before it or there is none. -/
def runBody (exec : β → Action σ) (s : Scheduled β) (v : Verdict) (t : Thread σ) :
    Verdict × Thread σ :=
  match v, s.subject.body with
  | .ok (), some body => guarded (exec body) t
  | v, _ => (v, t)

def run (exec : β → Action σ) (s : Scheduled β) (t : Thread σ) : Verdict × Thread σ :=
  let (v, t) := runBefore exec s.before t
  let (v, t) := s.runBody exec v t
  runAfter exec s.after v t

end Scheduled

end Exemplar

import Exemplar.Declaration.Builder
import Exemplar.Panic

/-!
Declarations as programs. A declaration opens groups, declares examples and hooks, may have side
effects, may panic, and may catch a panic of a part of itself. A panic leaves open the groups in
which it was raised: the declaration that goes on after catching it finds them open, and closing a
group closes the innermost open one.
-/

namespace Exemplar

/-- A declaration; `β` are hooks and bodies, `ν` are side effects. -/
inductive Program (β ν : Type) where
  | done
  | group (description : String) (members : Program β ν) (next : Program β ν)
  | leaf (description : String) (callsite : Callsite) (body : Option β) (next : Program β ν)
  | before (hook : β) (next : Program β ν)
  | after (hook : β) (next : Program β ν)
  /-- Ends the declaration by a panic; without a site it has no place. -/
  | panic (payload : Payload) (site : Option Callsite)
  /-- Swallows a panic of a part. -/
  | attempt (part : Program β ν) (next : Program β ν)
  | effect (op : ν) (next : Program β ν)
  deriving Repr, Inhabited

namespace Program

variable {β ν σ : Type}

/-- One declaration after another. What follows a panic is never reached. -/
def append : Program β ν → Program β ν → Program β ν
  | done, more => more
  | group d members next, more => group d members (next.append more)
  | leaf d callsite body next, more => leaf d callsite body (next.append more)
  | before hook next, more => before hook (next.append more)
  | after hook next, more => after hook (next.append more)
  | panic payload site, _ => panic payload site
  | attempt part next, more => attempt part (next.append more)
  | effect op next, more => effect op (next.append more)

def times : Nat → Program β ν → Program β ν
  | 0, _ => done
  | n + 1, p => p.append (times n p)

/-- An example inside one nested group for each description but the last; no descriptions declare
nothing. -/
def chain (callsite : Callsite) (body : Option β) : List String → Program β ν
  | [] => done
  | [description] => leaf description callsite body done
  | description :: descriptions => group description (chain callsite body descriptions) done

/-- Runs a declaration. The result is the payload of an uncaught panic, if there is one. -/
def run (perform : ν → Builder β → Thread σ → Thread σ) :
    Program β ν → Builder β → Thread σ → Option Payload × Builder β × Thread σ
  | done, b, t => (none, b, t)
  | group d members next, b, t =>
    match members.run perform (b.openGroup d) t with
    | (none, b, t) => next.run perform b.closeGroup t
    | (some payload, b, t) => (some payload, b, t)
  | leaf d callsite body next, b, t => next.run perform (b.addExample d callsite body) t
  | before hook next, b, t => next.run perform (b.addBefore hook) t
  | after hook next, b, t => next.run perform (b.addAfter hook) t
  | panic payload site, b, t => (some payload, b, t.notePanic site)
  | attempt part next, b, t =>
    let (_, b, t) := part.run perform b t
    next.run perform b t
  | effect op next, b, t => next.run perform b (perform op b t)

/-- Running a declaration does nothing to the builder but declare. -/
theorem run_grows (perform : ν → Builder β → Thread σ → Thread σ) {start : Builder β}
    (p : Program β ν) {b : Builder β} (h : start.Grows b) (t : Thread σ) :
    start.Grows (p.run perform b t).2.1 := by
  induction p generalizing b t with
  | done => exact h
  | group d members next ihm ihn =>
    have hm := ihm (h.openGroup d) t
    unfold run
    split
    · next b' t' hr =>
      rw [hr] at hm
      exact ihn hm.closeGroup t'
    · next payload b' t' hr =>
      rw [hr] at hm
      exact hm
  | leaf d callsite body next ih => exact ih (h.addExample d callsite body) t
  | before hook next ih => exact ih (h.addBefore hook) t
  | after hook next ih => exact ih (h.addAfter hook) t
  | panic payload site => exact h
  | attempt part next ihp ihn => exact ihn (ihp h t) _
  | effect op next ih => exact ih h _

/-- Numbers the hooks and bodies from `n` on, in the order of declaration, and returns the next
number. -/
def numbered {γ : Type} (number : Nat → β → γ) : Nat → Program β ν → Program γ ν × Nat
  | n, done => (done, n)
  | n, group d members next =>
    let (members, n) := members.numbered number n
    let (next, n) := next.numbered number n
    (group d members next, n)
  | n, leaf d callsite none next =>
    let (next, n) := next.numbered number n
    (leaf d callsite none next, n)
  | n, leaf d callsite (some body) next =>
    let (next, m) := next.numbered number (n + 1)
    (leaf d callsite (some (number n body)) next, m)
  | n, before hook next =>
    let (next, m) := next.numbered number (n + 1)
    (before (number n hook) next, m)
  | n, after hook next =>
    let (next, m) := next.numbered number (n + 1)
    (after (number n hook) next, m)
  | n, panic payload site => (panic payload site, n)
  | n, attempt part next =>
    let (part, n) := part.numbered number n
    let (next, n) := next.numbered number n
    (attempt part next, n)
  | n, effect op next =>
    let (next, n) := next.numbered number n
    (effect op next, n)

end Program

end Exemplar

import Exemplar.Proofs.Bridge.Containment
import Exemplar.Proofs.Registry.History
import Exemplar.Proofs.Registry.Keys

namespace Exemplar

variable {β σ ρ : Type}

/-- What a use gives. -/
inductive Answer (β ρ : Type) where
  | root (result : Except Payload (Slot β))
  | tree (result : Except Abort (Group β))
  | bridge (result : Except Abort (Bridge β))
  /-- There may be no group at the path. -/
  | bridgeOver (result : Except Abort (Option (Bridge β)))
  | run (result : Except Abort Summary) (host : ρ)
  | meanwhile

namespace Use

/-- The spec that is used. -/
def key? : Use σ ρ → Option Nat
  | root key | tree key | bridge key _ | bridgeOver key _ _ _ | run key _ _ _ => some key
  | meanwhile _ => none

def answer (specs : Catalogue β σ) (exec : β → Action σ) :
    Use σ ρ → Registry β → Thread σ → Answer β ρ × Registry β × Thread σ
  | root key, r, t =>
    let (result, r, t) := r.rootFor (specs.spec key) t
    (.root result, r, t)
  | tree key, r, t =>
    let (result, r, t) := r.firstUse (specs.spec key) t
    (.tree result, r, t)
  | bridge key config, r, t =>
    let (result, r, t) := r.bridgeFor (specs.spec key) config t
    (.bridge result, r, t)
  | bridgeOver key name separator path, r, t =>
    match r.firstUse (specs.spec key) t with
    | (.error e, r, t) => (.bridgeOver (.error e), r, t)
    | (.ok whole, r, t) =>
      match r.bridgeOver key name separator whole path t with
      | some (made, r, t) => (.bridgeOver (.ok (some made)), r, t)
      | none => (.bridgeOver (.ok none), r, t)
  | run key config recorder host, r, t =>
    let (result, r, s) := r.runSpecWith exec recorder (specs.spec key) config ⟨t, host⟩
    (.run result s.host, r, s.thread)
  | meanwhile f, r, t => (.meanwhile, r, f t)

variable (specs : Catalogue β σ) (exec : β → Action σ) (u : Use σ ρ) (r : Registry β) (t : Thread σ)

end Use

namespace Registry

/-- What the host gets from uses in turn, each of the specs as they are by then. -/
def answers (exec : β → Action σ) : List (Catalogue β σ × Use σ ρ) → Registry β → Thread σ →
    List (Answer β ρ) × Registry β × Thread σ
  | [], r, t => ([], r, t)
  | (specs, u) :: uses, r, t =>
    let (answer, r, t) := u.answer specs exec r t
    let (others, r, t) := answers exec uses r t
    (answer :: others, r, t)

end Registry

namespace Registry

variable (exec : β → Action σ)

end Registry

end Exemplar

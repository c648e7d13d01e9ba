import Exemplar.Proofs.Declaration.Growth
import Exemplar.Registry.Basic

namespace Exemplar

variable {β σ : Type}

namespace Slot

variable {slot : Slot β} {spec : Spec β σ} {t : Thread σ}

theorem slot_build : (slot.build spec t).2.1 = slot.begin := rfl

theorem compile_of_some {outcome : Except SpecError (Group β)} (h : slot.compiled = some outcome) :
    slot.compile spec t = (outcome, slot, t) := by
  rw [compile, h]

theorem compile_of_none (h : slot.compiled = none) :
    slot.compile spec t = ((slot.build spec t).1, slot.begin.finish (slot.build spec t).1,
      (slot.build spec t).2.2) := by
  rw [compile, h]
  rfl

theorem mapTree_of_compiled (slot : Slot β) {tree : Group β} (hs : slot.compiled = some (.ok tree))
    (f : Group β → Group β) : slot.mapTree f = { slot with compiled := some (.ok (f tree)) } := by
  rw [mapTree, hs]

end Slot

namespace Registry

/-- A poisoned lock gives the same slots. -/
@[simp] theorem held_eq (r : Registry β) : r.held = r.slots := by
  rw [held, lock]
  cases r.poisoned <;> rfl

@[simp] theorem slots_poison (r : Registry β) : r.poison.slots = r.slots := rfl

theorem slot?_congr {r r' : Registry β} (h : r'.slots = r.slots) (key : Nat) :
    r'.slot? key = r.slot? key := by
  rw [slot?, slot?, held_eq, held_eq, h]

@[simp] theorem slot?_poison (r : Registry β) (key : Nat) : r.poison.slot? key = r.slot? key :=
  slot?_congr (r.slots_poison) key

/-- What became of the declaration of a spec, if it has run. -/
def outcome? (r : Registry β) (key : Nat) : Option (Except SpecError (Group β)) :=
  (r.slot? key).bind Slot.compiled

/-- The tree of a spec, if it was compiled. -/
def tree? (r : Registry β) (key : Nat) : Option (Group β) :=
  match r.outcome? key with
  | some (.ok tree) => some tree
  | _ => none

theorem outcome?_of_tree? {r : Registry β} {key : Nat} {tree : Group β}
    (h : r.tree? key = some tree) : r.outcome? key = some (.ok tree) := by
  unfold tree? at h
  split at h
  · next tree' ho => rw [ho, Option.some.inj h]
  · simp at h

theorem slot?_insert_self {r : Registry β} {key : Nat} (h : r.slot? key = none) (slot : Slot β) :
    (r.insert key slot).slot? key = some slot := by
  simp only [slot?, held_eq] at h
  simp only [slot?, insert, held_eq, List.lookup_append, h, Option.none_or, List.lookup_cons_self]

theorem slot?_insert_of_ne {r : Registry β} {key other : Nat} (h : other ≠ key) (slot : Slot β) :
    (r.insert key slot).slot? other = r.slot? other := by
  have hb : (other == key) = false := by simpa using h
  simp only [slot?, insert, held_eq, List.lookup_append, List.lookup_cons, hb, List.lookup_nil,
    Option.or_none]

theorem lookup_modify (slots : List (Nat × Slot β)) (key other : Nat) (f : Slot β → Slot β) :
    (slots.map fun entry => if entry.1 = key then (entry.1, f entry.2) else entry).lookup other =
      if other = key then (slots.lookup other).map f else slots.lookup other := by
  induction slots with
  | nil => simp
  | cons entry slots ih =>
    rcases entry with ⟨k, slot⟩
    have hentry : (if k = key then (k, f slot) else (k, slot)) =
        (k, if k = key then f slot else slot) := by split <;> rfl
    rw [List.map_cons, hentry, List.lookup_cons, List.lookup_cons]
    cases hb : other == k with
    | true =>
      obtain rfl := eq_of_beq hb
      show some _ = if other = key then some (f slot) else some slot
      split <;> rfl
    | false => exact ih

theorem slot?_modify_self (r : Registry β) (key : Nat) (f : Slot β → Slot β) :
    (r.modify key f).slot? key = (r.slot? key).map f := by
  rw [slot?, held_eq, modify, lookup_modify, if_pos rfl, slot?, held_eq]

theorem slot?_modify_of_ne {r : Registry β} {key other : Nat} (h : other ≠ key)
    (f : Slot β → Slot β) : (r.modify key f).slot? other = r.slot? other := by
  rw [slot?, held_eq, modify, lookup_modify, if_neg h, slot?, held_eq]

/-- Asking for the slot of a spec finds it, fails with the panic of its name, or makes it. -/
theorem rootFor_cases (spec : Spec β σ) (r : Registry β) (t : Thread σ) :
    (∃ p, r.slot? spec.key = none ∧ spec.name = .error p ∧
      r.rootFor spec t = (.error p, r.poison, t)) ∨
    (∃ slot, r.slot? spec.key = some slot ∧ r.rootFor spec t = (.ok slot, r, t)) ∨
    ∃ name, r.slot? spec.key = none ∧ spec.name = .ok name ∧
      r.rootFor spec t =
        (.ok (.idle name), r.insert spec.key (.idle name), t.emit (.registering name)) := by
  cases hs : r.slot? spec.key with
  | some slot => exact .inr (.inl ⟨slot, rfl, by rw [rootFor, hs]⟩)
  | none =>
    cases hn : spec.name with
    | error p => exact .inl ⟨p, rfl, rfl, by rw [rootFor, hs, hn]⟩
    | ok name => exact .inr (.inr ⟨name, rfl, rfl, by rw [rootFor, hs, hn]⟩)

/-- The first use of a spec ends with this outcome: the slot holds it, and either it did so before or
a declaration has just run. -/
structure Used (spec : Spec β σ) (r r' : Registry β) (outcome : Except SpecError (Group β)) :
    Prop where
  stored : r'.outcome? spec.key = some outcome
  named : (∃ slot, r.slot? spec.key = some slot) ∨ ∃ name, spec.name = .ok name
  origin : r.outcome? spec.key = some outcome ∨
    r.outcome? spec.key = none ∧
      ∃ name panic b, Builder.start.Grows b ∧ outcome = Slot.outcomeOf name panic b
  others : ∀ key, key ≠ spec.key → r'.slot? key = r.slot? key

/-- Compiling the slot of a spec, found or made, and putting it back. -/
theorem used_modify {spec : Spec β σ} {r r' : Registry β} {slot : Slot β} {t : Thread σ}
    (hs : r'.slot? spec.key = some slot) (ho : r.outcome? spec.key = slot.compiled)
    (hn : (∃ slot, r.slot? spec.key = some slot) ∨ ∃ name, spec.name = .ok name)
    (hr : ∀ key, key ≠ spec.key → r'.slot? key = r.slot? key) :
    Used spec r (r'.modify spec.key fun _ => (slot.compile spec t).2.1)
      (slot.compile spec t).1 := by
  have hs' : (r'.modify spec.key fun _ => (slot.compile spec t).2.1).slot? spec.key =
      some (slot.compile spec t).2.1 := by
    rw [slot?_modify_self, hs, Option.map_some]
  have hothers : ∀ key, key ≠ spec.key →
      (r'.modify spec.key fun _ => (slot.compile spec t).2.1).slot? key = r.slot? key := by
    intro key hk
    rw [slot?_modify_of_ne hk, hr key hk]
  cases hc : slot.compiled with
  | some outcome =>
    rw [Slot.compile_of_some hc] at hs' hothers ⊢
    refine ⟨?_, hn, .inl (ho.trans hc), hothers⟩
    rw [outcome?, hs', Option.bind_some, hc]
  | none =>
    rw [Slot.compile_of_none hc] at hs' hothers ⊢
    refine ⟨?_, hn, .inr ⟨ho.trans hc, slot.name, _, _, spec.grows .start _, rfl⟩, hothers⟩
    rw [outcome?, hs']
    rfl

/-- Using a spec fails with the panic of its name, or compiles the spec if that was not done before. -/
theorem firstUse_cases (spec : Spec β σ) (r : Registry β) (t : Thread σ) :
    (∃ p, r.slot? spec.key = none ∧ spec.name = .error p ∧
      r.firstUse spec t = (.error (.panicked p), r.poison, t)) ∨
    ∃ outcome r' t', Used spec r r' outcome ∧
      r.firstUse spec t = (outcome.mapError .failed, r', t') := by
  rcases rootFor_cases spec r t with ⟨p, hs, hn, h⟩ | ⟨slot, hs, h⟩ | ⟨name, hs, hn, h⟩
  · exact .inl ⟨p, hs, hn, by rw [firstUse, h]⟩
  · refine .inr ⟨_, _, _, used_modify hs ?_ (.inl ⟨slot, hs⟩) fun _ _ => rfl, by rw [firstUse, h]⟩
    rw [outcome?, hs, Option.bind_some]
  · refine .inr ⟨_, _, _, used_modify (slot?_insert_self hs _) ?_ (.inr ⟨name, hn⟩) ?_,
      by rw [firstUse, h]⟩
    · rw [outcome?, hs]
      rfl
    · exact fun key hk => slot?_insert_of_ne hk _

theorem used_of_firstUse {spec : Spec β σ} {r r' : Registry β} {t t' : Thread σ} {tree : Group β}
    (h : r.firstUse spec t = (.ok tree, r', t')) : Used spec r r' (.ok tree) := by
  rcases firstUse_cases spec r t with ⟨p, -, -, hp⟩ | ⟨outcome, r'', t'', hu, ho⟩
  · rw [hp] at h
    simp at h
  · rw [ho] at h
    cases outcome with
    | error e => cases congrArg Prod.fst h
    | ok tree' =>
      obtain ⟨rfl, rfl, rfl⟩ := h
      exact hu

end Registry

end Exemplar

import Exemplar.Proofs.Bridge.Binding
import Exemplar.Proofs.Registry.Slots
import Mathlib.Data.List.Nodup

namespace Exemplar

variable {β σ : Type}

namespace Registry

/-- The specs that have a slot, in the order in which they got it. -/
def keys (r : Registry β) : List Nat := r.slots.map Prod.fst

theorem getElem?_keys {r : Registry β} {place key : Nat} {slot : Slot β}
    (h : r.slots[place]? = some (key, slot)) : r.keys[place]? = some key := by
  rw [keys, List.getElem?_map, h]
  rfl

/-- A key has one place. -/
theorem place_unique {r : Registry β} (hd : r.keys.Nodup) {place place' key : Nat}
    (h : r.keys[place]? = some key) (h' : r.keys[place']? = some key) : place = place' :=
  (List.getElem?_inj (List.getElem?_eq_some_iff.mp h).1 hd).mp (h.trans h'.symm)

theorem keys_insert (r : Registry β) (key : Nat) (slot : Slot β) :
    (r.insert key slot).keys = r.keys ++ [key] := by
  rw [keys, insert, held_eq, List.map_append]
  rfl

theorem slot?_eq_none_iff {r : Registry β} {key : Nat} : r.slot? key = none ↔ key ∉ r.keys := by
  rw [slot?, held_eq, List.lookup_eq_none_iff, keys, List.mem_map]
  constructor
  · rintro h ⟨entry, hentry, rfl⟩
    simpa using h entry hentry
  · intro h entry hentry
    simp only [bne_iff_ne, ne_eq]
    rintro rfl
    exact h ⟨entry, hentry, rfl⟩

theorem slot?_of_mem {r : Registry β} {key : Nat} {slot : Slot β} (hd : r.keys.Nodup)
    (h : (key, slot) ∈ r.slots) : r.slot? key = some slot := by
  rw [slot?, held_eq]
  exact lookup_of_mem_of_nodup hd h

theorem rootFor_error {spec : Spec β σ} {r r' : Registry β} {t t' : Thread σ} {p : Payload}
    (h : r.rootFor spec t = (.error p, r', t')) : r' = r.poison := by
  rcases rootFor_cases spec r t with ⟨p', -, -, h'⟩ | ⟨slot, -, h'⟩ | ⟨name, -, -, h'⟩
  · rw [h'] at h
    exact (congrArg (fun x => x.2.1) h).symm
  · rw [h'] at h
    cases congrArg Prod.fst h
  · rw [h'] at h
    cases congrArg Prod.fst h

theorem rootFor_ok {spec : Spec β σ} {r r' : Registry β} {t t' : Thread σ} {slot : Slot β}
    (h : r.rootFor spec t = (.ok slot, r', t')) :
    (spec.key ∈ r.keys ∧ r' = r) ∨ ∃ name, spec.key ∉ r.keys ∧ r' = r.insert spec.key (.idle name) := by
  rcases rootFor_cases spec r t with ⟨p', -, -, h'⟩ | ⟨slot', hs, h'⟩ | ⟨name, hs, -, h'⟩
  · rw [h'] at h
    cases congrArg Prod.fst h
  · rw [h'] at h
    refine .inl ⟨?_, (congrArg (fun x => x.2.1) h).symm⟩
    by_contra hkey
    rw [slot?_eq_none_iff.mpr hkey] at hs
    cases hs
  · rw [h'] at h
    exact .inr ⟨name, slot?_eq_none_iff.mp hs, (congrArg (fun x => x.2.1) h).symm⟩

/-- Putting back the slot that is there. -/
theorem modify_eq_self {r : Registry β} {key : Nat} {slot : Slot β} (hd : r.keys.Nodup)
    (hs : r.slot? key = some slot) : (r.modify key fun _ => slot) = r := by
  have hslots : (r.modify key fun _ => slot).slots = r.slots := by
    rw [modify]
    refine (List.map_congr_left ?_).trans (List.map_id _)
    rintro ⟨key', slot'⟩ hentry
    by_cases hk : key' = key
    · subst hk
      have hs' : r.slot? key' = some slot' := slot?_of_mem hd hentry
      obtain rfl := Option.some.inj (hs.symm.trans hs')
      simp
    · simp [hk]
  exact congrArg (Registry.mk · r.poisoned) hslots

end Registry

end Exemplar

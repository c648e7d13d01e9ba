import Exemplar.Proofs.Bridge.FirstName
import Exemplar.Proofs.Registry.Slots
import Exemplar.Registry.Run

namespace Exemplar

variable {β σ ρ : Type}

namespace Registry

/-- What the outcome of a declaration may become: once there it stays, and a tree gets names only. -/
inductive Persists : Option (Except SpecError (Group β)) → Option (Except SpecError (Group β)) → Prop
  | undone (o : Option (Except SpecError (Group β))) : Persists none o
  | failed (e : SpecError) : Persists (some (.error e)) (some (.error e))
  | compiled {tree tree' : Group β} (h : tree'.unnamed = tree.unnamed) :
    Persists (some (.ok tree)) (some (.ok tree'))

theorem Persists.refl (o : Option (Except SpecError (Group β))) : Persists o o := by
  rcases o with _ | e | tree
  · exact .undone _
  · exact .failed e
  · exact .compiled rfl

theorem Persists.trans {a b c : Option (Except SpecError (Group β))} (h : Persists a b)
    (h' : Persists b c) : Persists a c := by
  cases h with
  | undone => exact .undone _
  | failed => exact h'
  | compiled hu =>
    cases h' with
    | compiled hu' => exact .compiled (hu'.trans hu)

theorem Persists.exists_tree {tree : Group β} {o : Option (Except SpecError (Group β))}
    (h : Persists (some (.ok tree)) o) :
    ∃ tree' : Group β, o = some (.ok tree') ∧ tree'.unnamed = tree.unnamed := by
  cases h with
  | compiled hu => exact ⟨_, rfl, hu⟩

/-- What bridges over the groups at the paths have made of the slot of a spec. -/
structure Tracked (spec : Spec β σ) (paths : List (List Nat)) (r : Registry β) : Prop where
  has_name : ∀ slot, r.slot? spec.key = some slot → ∃ name, spec.name = .ok name
  untouched : ∀ name, spec.name = .ok name → r.outcome? spec.key = none → paths = []
  named : ∀ tree, r.outcome? spec.key = some (.ok tree) → tree.NamedBy paths

theorem outcome?_congr {r r' : Registry β} {key : Nat} (h : r'.slot? key = r.slot? key) :
    r'.outcome? key = r.outcome? key := by
  rw [outcome?, outcome?, h]

theorem Tracked.congr {spec : Spec β σ} {paths : List (List Nat)} {r r' : Registry β}
    (h : Tracked spec paths r) (hs : r'.slot? spec.key = r.slot? spec.key) :
    Tracked spec paths r' := by
  refine ⟨?_, ?_, ?_⟩
  · rw [hs]
    exact h.has_name
  · rw [outcome?_congr hs]
    exact h.untouched
  · rw [outcome?_congr hs]
    exact h.named

theorem Tracked.empty (spec : Spec β σ) : Tracked spec [] (Registry.empty : Registry β) := by
  refine ⟨fun slot h => ?_, fun _ _ _ => rfl, fun tree h => ?_⟩
  · simp [slot?, Registry.empty] at h
  · simp [outcome?, slot?, Registry.empty] at h

theorem slot?_isSome_of_outcome? {r : Registry β} {key : Nat} {outcome : Except SpecError (Group β)}
    (h : r.outcome? key = some outcome) : ∃ slot, r.slot? key = some slot := by
  cases hs : r.slot? key with
  | none => simp [outcome?, hs] at h
  | some slot => exact ⟨slot, rfl⟩

theorem Tracked.used {spec : Spec β σ} {paths : List (List Nat)} {r r' : Registry β}
    {outcome : Except SpecError (Group β)} (h : Tracked spec paths r) (hu : Used spec r r' outcome) :
    Tracked spec paths r' := by
  refine ⟨fun _ _ => ?_, ?_, ?_⟩
  · rcases hu.named with ⟨slot, hslot⟩ | hname
    · exact h.has_name slot hslot
    · exact hname
  · intro name _ hnone
    rw [hu.stored] at hnone
    simp at hnone
  · intro tree htree
    obtain rfl : outcome = .ok tree := Option.some.inj (hu.stored.symm.trans htree)
    rcases hu.origin with hbefore | ⟨hnone, name, panic, b, hgrows, houtcome⟩
    · exact h.named tree hbefore
    · -- a tree that was compiled just now has no names, and no bridge was made over it
      have hname : ∃ name, spec.name = .ok name := by
        rcases hu.named with ⟨slot, hslot⟩ | hname
        · exact h.has_name slot hslot
        · exact hname
      obtain ⟨name', hname'⟩ := hname
      rw [h.untouched name' hname' hnone]
      cases panic with
      | some payload => simp [Slot.outcomeOf] at houtcome
      | none =>
        obtain rfl : tree = b.finish := Except.ok.inj houtcome
        exact Group.namedBy_nil (Builder.Nameless.start.grows hgrows).finish

theorem Tracked.registered {spec : Spec β σ} {paths : List (List Nat)} {r : Registry β} {name : String}
    (h : Tracked spec paths r) (hs : r.slot? spec.key = none) (hn : spec.name = .ok name) :
    Tracked spec paths (r.insert spec.key (.idle name)) := by
  have ho : r.outcome? spec.key = none := by rw [outcome?, hs, Option.bind_none]
  have ho' : (r.insert spec.key (.idle name)).outcome? spec.key = none := by
    rw [outcome?, slot?_insert_self hs]
    rfl
  refine ⟨fun _ _ => ⟨name, hn⟩, fun _ _ _ => h.untouched name hn ho, fun tree ht => ?_⟩
  rw [ho'] at ht
  simp at ht

theorem Tracked.of_error {spec : Spec β σ} {paths more : List (List Nat)} {r : Registry β}
    {e : SpecError} (h : Tracked spec paths r) (he : r.outcome? spec.key = some (.error e)) :
    Tracked spec more r := by
  refine ⟨h.has_name, ?_, ?_⟩
  · intro name _ hnone
    rw [he] at hnone
    simp at hnone
  · intro tree htree
    rw [he] at htree
    simp at htree

theorem Tracked.of_nameless {spec : Spec β σ} {paths : List (List Nat)} {r : Registry β} {p : Payload}
    (hs : r.slot? spec.key = none) (hn : spec.name = .error p) : Tracked spec paths r := by
  refine ⟨fun slot h => ?_, fun name h => ?_, fun tree h => ?_⟩
  · rw [hs] at h
    simp at h
  · rw [hn] at h
    simp at h
  · rw [outcome?, hs] at h
    simp at h

/-- The registry after a bridge over the group at a path of a tree, if there is such a group. -/
def nameAt (r : Registry β) (key : Nat) (tree : Group β) (path : List Nat) : Registry β :=
  match tree.at? path with
  | none => r
  | some g => r.modify key (·.mapTree (·.updateAt path fun _ => g.named))

theorem slot?_nameAt_of_ne {r : Registry β} {key other : Nat} (h : other ≠ key) (tree : Group β)
    (path : List Nat) : (r.nameAt key tree path).slot? other = r.slot? other := by
  rw [nameAt]
  split
  · rfl
  · exact slot?_modify_of_ne h _

theorem outcome?_nameAt {r : Registry β} {key : Nat} {tree g : Group β} {path : List Nat}
    (h : r.outcome? key = some (.ok tree)) (hg : tree.at? path = some g) :
    (r.nameAt key tree path).outcome? key =
      some (.ok (tree.updateAt path fun _ => g.named)) := by
  obtain ⟨slot, hs⟩ := slot?_isSome_of_outcome? h
  have hc : slot.compiled = some (.ok tree) := by simpa [outcome?, hs] using h
  simp only [nameAt, hg, outcome?, slot?_modify_self, hs, Option.map_some, Option.bind_some,
    Slot.mapTree, hc]

theorem Tracked.nameAt {spec : Spec β σ} {paths : List (List Nat)} {r : Registry β} {tree : Group β}
    (h : Tracked spec paths r) (ho : r.outcome? spec.key = some (.ok tree)) (path : List Nat) :
    Tracked spec (paths ++ [path]) (r.nameAt spec.key tree path) := by
  have hname : ∃ name, spec.name = .ok name := by
    obtain ⟨slot, hs⟩ := slot?_isSome_of_outcome? ho
    exact h.has_name slot hs
  cases hg : tree.at? path with
  | none =>
    have hr : r.nameAt spec.key tree path = r := by rw [Registry.nameAt, hg]
    rw [hr]
    refine ⟨fun _ _ => hname, fun _ _ hnone => ?_, fun tree' ho' => ?_⟩
    · rw [ho] at hnone
      simp at hnone
    · obtain rfl : tree = tree' := Except.ok.inj (Option.some.inj (ho.symm.trans ho'))
      exact (h.named tree ho).miss hg
  | some g =>
    refine ⟨fun _ _ => hname, fun _ _ hnone => ?_, fun tree' ho' => ?_⟩
    · rw [outcome?_nameAt ho hg] at hnone
      simp at hnone
    · rw [outcome?_nameAt ho hg] at ho'
      obtain rfl := Except.ok.inj (Option.some.inj ho')
      exact (h.named tree ho).step hg

theorem persists_used {spec : Spec β σ} {r r' : Registry β} {outcome : Except SpecError (Group β)}
    (hu : Used spec r r' outcome) : Persists (r.outcome? spec.key) (r'.outcome? spec.key) := by
  rcases hu.origin with hbefore | ⟨hnone, -⟩
  · rw [hbefore, hu.stored]
    exact .refl _
  · rw [hnone]
    exact .undone _

theorem persists_nameAt {r : Registry β} {key : Nat} {tree : Group β} (path : List Nat)
    (ho : r.outcome? key = some (.ok tree)) :
    Persists (r.outcome? key) ((r.nameAt key tree path).outcome? key) := by
  cases hg : tree.at? path with
  | none =>
    have hr : r.nameAt key tree path = r := by rw [nameAt, hg]
    rw [hr]
    exact .refl _
  | some g =>
    rw [ho, outcome?_nameAt ho hg]
    exact .compiled (Group.unnamed_updateAt_named hg)

/-- What a use of a spec may do, with the path of the group over which it makes a bridge, if any. -/
inductive Change (spec : Spec β σ) : Option (List Nat) → Registry β → Registry β → Prop
  | same (r : Registry β) : Change spec none r r
  | nameless {r : Registry β} {p : Payload} (path : Option (List Nat))
    (hs : r.slot? spec.key = none) (hn : spec.name = .error p) : Change spec path r r.poison
  | registered {r : Registry β} {name : String} (hs : r.slot? spec.key = none)
    (hn : spec.name = .ok name) : Change spec none r (r.insert spec.key (.idle name))
  | used {r r' : Registry β} {outcome : Except SpecError (Group β)}
    (hu : Used spec r r' outcome) : Change spec none r r'
  | failed {r r' : Registry β} {e : SpecError} (path : Option (List Nat))
    (hu : Used spec r r' (.error e)) : Change spec path r r'
  | renamed {r r' : Registry β} {tree : Group β} {p : Payload} (path : Option (List Nat))
    (hu : Used spec r r' (.ok tree)) (hn : spec.name = .error p) : Change spec path r r'
  | named {r r' : Registry β} {tree : Group β} (path : List Nat)
    (hu : Used spec r r' (.ok tree)) : Change spec (some path) r (r'.nameAt spec.key tree path)

namespace Change

variable {spec : Spec β σ} {path : Option (List Nat)} {r r' : Registry β}

theorem slot?_of_ne (h : Change spec path r r') {key : Nat} (hk : key ≠ spec.key) :
    r'.slot? key = r.slot? key := by
  cases h with
  | same => rfl
  | nameless => exact r.slot?_poison key
  | registered => exact slot?_insert_of_ne hk _
  | used hu => exact hu.others key hk
  | failed _ hu => exact hu.others key hk
  | renamed _ hu => exact hu.others key hk
  | named path hu => rw [slot?_nameAt_of_ne hk, hu.others key hk]

theorem persists (h : Change spec path r r') :
    Persists (r.outcome? spec.key) (r'.outcome? spec.key) := by
  cases h with
  | same => exact .refl _
  | nameless =>
    rw [outcome?_congr (r.slot?_poison spec.key)]
    exact .refl _
  | registered hs =>
    rw [outcome?, hs]
    exact .undone _
  | used hu => exact persists_used hu
  | failed _ hu => exact persists_used hu
  | renamed _ hu => exact persists_used hu
  | named path hu => exact (persists_used hu).trans (persists_nameAt path hu.stored)

theorem tracked {paths : List (List Nat)} (h : Change spec path r r') (ht : Tracked spec paths r) :
    Tracked spec (paths ++ path.toList) r' := by
  cases h with
  | same => simpa using ht
  | nameless _ hs hn => exact .of_nameless ((r.slot?_poison spec.key).trans hs) hn
  | registered hs hn => simpa using ht.registered hs hn
  | used hu => simpa using ht.used hu
  | failed _ hu => exact (ht.used hu).of_error hu.stored
  | renamed _ hu hn =>
    have ht' := ht.used hu
    obtain ⟨slot, hs⟩ := slot?_isSome_of_outcome? hu.stored
    obtain ⟨name, hn'⟩ := ht'.has_name slot hs
    rw [hn] at hn'
    simp at hn'
  | named path hu => exact (ht.used hu).nameAt hu.stored path

end Change

end Registry

end Exemplar

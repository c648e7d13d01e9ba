import Exemplar.Proofs.Registry.Traffic

namespace Exemplar

variable {β σ : Type}

/-- The call was one of the declaration of a spec with this key, with nothing declared before. -/
def Declared.Of (call : Declared β) (key : Nat) : Prop :=
  ∃ (σ : Type) (spec : Spec β σ) (t t' : Thread σ),
    spec.key = key ∧ spec.declare .start t = (call.panic, call.builder, t')

/-- The states of a slot: who runs its declaration with which outcome, and the calls of it. -/
inductive Slot.State (slot : Slot β) (key : Nat) (builds : Nat → Except SpecError (Group β) → Prop)
    (calls : List (Declared β)) : Prop
  | idle (hs : slot.compiled = none) (hn : slot.compilations = 0) (hb : ∀ c o, ¬ builds c o)
    (hcalls : calls = [])
  | building {c : Nat} {outcome : Except SpecError (Group β)} {call : Declared β}
    (hs : slot.compiled = none) (hn : slot.compilations = 1)
    (hb : ∀ c' o, builds c' o ↔ c' = c ∧ o = outcome) (hcalls : calls = [call]) (ho : call.Of key)
    (hg : call.Gives slot.name outcome)
  | compiled {outcome : Except SpecError (Group β)} {call : Declared β}
    (hs : slot.compiled = some outcome) (hn : slot.compilations = 1) (hb : ∀ c o, ¬ builds c o)
    (hcalls : calls = [call]) (ho : call.Of key) (hg : call.Gives slot.name outcome)

namespace Slot.State

variable {slot : Slot β} {key : Nat} {builds : Nat → Except SpecError (Group β) → Prop}
  {calls : List (Declared β)}

theorem of_compiled {outcome : Except SpecError (Group β)} (h : slot.State key builds calls)
    (hs : slot.compiled = some outcome) :
    ∃ call, calls = [call] ∧ call.Of key ∧ call.Gives slot.name outcome := by
  cases h with
  | idle hnone => cases hs.symm.trans hnone
  | building hnone => cases hs.symm.trans hnone
  | @compiled outcome' call hs' _ _ hcalls ho hg =>
    obtain rfl := Option.some.inj (hs.symm.trans hs')
    exact ⟨call, hcalls, ho, hg⟩

theorem of_idle (h : slot.State key builds calls) (hs : slot.compiled = none)
    (hb : ∀ c o, ¬ builds c o) : slot.compilations = 0 ∧ calls = [] := by
  cases h with
  | idle _ hn _ hcalls => exact ⟨hn, hcalls⟩
  | building _ _ hb' => exact absurd ((hb' _ _).mpr ⟨rfl, rfl⟩) (hb _ _)
  | compiled hs' => cases hs.symm.trans hs'

theorem of_builds {c : Nat} {outcome : Except SpecError (Group β)} (h : slot.State key builds calls)
    (hc : builds c outcome) : slot.compiled = none ∧ slot.compilations = 1 ∧
      (∀ c' o, builds c' o ↔ c' = c ∧ o = outcome) ∧
      ∃ call, calls = [call] ∧ call.Of key ∧ call.Gives slot.name outcome := by
  cases h with
  | idle _ _ hb => exact absurd hc (hb _ _)
  | compiled _ _ hb => exact absurd hc (hb _ _)
  | building hs hn hb hcalls ho hg =>
    obtain ⟨rfl, rfl⟩ := (hb _ _).mp hc
    exact ⟨hs, hn, hb, _, hcalls, ho, hg⟩

end Slot.State

namespace Traffic

/-- Each slot is in one of its states. -/
structure Lifecycle (w : Traffic β) : Prop where
  state : ∀ {place key : Nat} {slot : Slot β}, w.registry.slots[place]? = some (key, slot) →
    slot.State key (w.Builds place) (w.callsAt place)
  fresh : ∀ {place : Nat}, w.registry.slots[place]? = none → w.Quiet place ∧ w.callsAt place = []

theorem callsAt_append {w w' : Traffic β} {place : Nat} {calls : List (Declared β)}
    (h : w'.calls = w.calls ++ calls.map (place, ·)) (i : Nat) :
    w'.callsAt i = w.callsAt i ++ if place = i then calls else [] := by
  rw [callsAt, h, List.filterMap_append, List.filterMap_map, callsAt]
  by_cases hi : place = i
  · simp [hi]
  · simp [hi]

/-- A caller that runs the declaration of no slot at a place, neither before nor after. -/
theorem builds_update {w w' : Traffic β} {c place : Nat} {phase : Phase β}
    (h : w'.phase = Function.update w.phase c phase)
    (hc : ∀ goal o, w.phase c ≠ .builds place goal o) (hp : ∀ goal o, phase ≠ .builds place goal o) :
    w'.Builds place = w.Builds place := by
  funext c' o
  simp only [Builds, h]
  by_cases hcc : c' = c
  · subst hcc
    simp [hc, hp]
  · rw [Function.update_of_ne hcc]

/-- A caller that turns to something else than running a declaration leaves the place quiet. -/
theorem Quiet.update {w w' : Traffic β} {c place : Nat} {phase : Phase β} (hq : w.Quiet place)
    (h : w'.phase = Function.update w.phase c phase)
    (hc : ∀ goal o, w.phase c ≠ .builds place goal o) (hp : ∀ goal o, phase ≠ .builds place goal o) :
    w'.Quiet place := by
  rw [Quiet, builds_update h hc hp]
  exact hq

namespace Lifecycle

variable {w : Traffic β}

theorem start : (Traffic.start : Traffic β).Lifecycle := by
  refine ⟨?_, fun _ => ⟨?_, rfl⟩⟩
  · intro place key slot h
    simp [Traffic.start, Registry.empty] at h
  · rintro c outcome ⟨goal, h⟩
    cases h

theorem note (h : w.Lifecycle) (o : Occurrence β) : (w.note o).Lifecycle := ⟨h.state, h.fresh⟩

theorem enter (h : w.Lifecycle) {c : Nat} {phase : Phase β}
    (hc : ∀ place goal o, w.phase c ≠ .builds place goal o)
    (hp : ∀ place goal o, phase ≠ .builds place goal o) : (w.enter c phase).Lifecycle := by
  have hbuilds (place : Nat) : (w.enter c phase).Builds place = w.Builds place :=
    builds_update rfl (hc place) (hp place)
  refine ⟨?_, ?_⟩
  · intro place key slot hslot
    rw [hbuilds]
    exact h.state hslot
  · intro place hslot
    rw [Quiet, hbuilds]
    exact h.fresh hslot

theorem insert (h : w.Lifecycle) (key : Nat) (name : String) :
    Lifecycle { w with registry := w.registry.insert key (.idle name) } := by
  refine ⟨?_, ?_⟩
  · intro place key' slot hp
    rw [Registry.insert, Registry.held_eq, List.getElem?_append] at hp
    split at hp
    · exact h.state hp
    · next hlt =>
      obtain ⟨hq, hcalls⟩ := h.fresh (List.getElem?_eq_none (Nat.le_of_not_lt hlt))
      obtain ⟨-, rfl⟩ : key' = key ∧ slot = .idle name := by
        simpa using List.mem_of_getElem? hp
      exact .idle rfl rfl hq hcalls
  · intro place hp
    rw [Registry.insert, Registry.held_eq, List.getElem?_append] at hp
    split at hp
    · exact h.fresh hp
    · next hlt => exact h.fresh (List.getElem?_eq_none (Nat.le_of_not_lt hlt))

/-- A step that changes the slot at one place, and is noted there, has to be right only there. -/
theorem alter (h : w.Lifecycle) {w' : Traffic β} {place key : Nat} {slot : Slot β}
    {f : Slot β → Slot β} (hp : w.registry.slots[place]? = some (key, slot))
    (hr : w'.registry = w.registry.alter place f)
    (hother : ∀ i, i ≠ place → w'.Builds i = w.Builds i ∧ w'.callsAt i = w.callsAt i)
    (hstate : (f slot).State key (w'.Builds place) (w'.callsAt place)) : w'.Lifecycle := by
  have hslots (i : Nat) : w'.registry.slots[i]? =
      if place = i then w.registry.slots[i]?.map (Prod.map id f) else w.registry.slots[i]? := by
    rw [hr, Registry.getElem?_alter]
  refine ⟨?_, ?_⟩
  · intro i key' slot' hi
    rw [hslots] at hi
    by_cases hpi : place = i
    · rw [if_pos hpi, ← hpi, hp, Option.map_some] at hi
      obtain ⟨rfl, rfl⟩ := Prod.mk.inj (Option.some.inj hi)
      exact hpi ▸ hstate
    · rw [if_neg hpi] at hi
      obtain ⟨hbuilds, hcalls⟩ := hother i (Ne.symm hpi)
      rw [hbuilds, hcalls]
      exact h.state hi
  · intro i hi
    rw [hslots] at hi
    by_cases hpi : place = i
    · rw [if_pos hpi, ← hpi, hp] at hi
      cases hi
    · rw [if_neg hpi] at hi
      obtain ⟨hbuilds, hcalls⟩ := hother i (Ne.symm hpi)
      rw [Quiet, hbuilds, hcalls]
      exact h.fresh hi

/-- A build calls the declaration, and the slot it gives counts the call. -/
theorem begin (h : w.Lifecycle) {spec : Spec β σ} {t : Thread σ} {c place : Nat} {goal : Goal}
    {slot : Slot β} (hc : w.phase c = .holds place goal)
    (hp : w.registry.slots[place]? = some (spec.key, slot)) (hs : slot.compiled = none)
    (hq : w.Quiet place) : (w.begin c place goal (slot.build spec.noting t.noted)).Lifecycle := by
  obtain ⟨call, t₁, hdeclare, hgives, hcalls, houtcome, -⟩ := slot.build_noting spec t.noted
  rw [houtcome] at hgives
  obtain ⟨hn, hnone⟩ := (h.state hp).of_idle hs hq
  have hnoted : (w.begin c place goal (slot.build spec.noting t.noted)).calls =
      w.calls ++ [call].map (place, ·) := by
    simp only [Traffic.begin, hcalls, Thread.calls_noted, List.nil_append]
  have hcallsAt := callsAt_append hnoted
  have honly (c' : Nat) (o : Except SpecError (Group β)) :
      (w.begin c place goal (slot.build spec.noting t.noted)).Builds place c' o ↔
        c' = c ∧ o = (slot.build spec.noting t.noted).1 := by
    simp only [Builds, Traffic.begin]
    by_cases hcc : c' = c
    · simp [hcc, eq_comm]
    · rw [Function.update_of_ne hcc]
      exact ⟨fun hb => absurd hb (hq c' o), fun hb => absurd hb.1 hcc⟩
  apply h.alter hp rfl
  · intro i hpi
    refine ⟨builds_update rfl (by simp [hc]) (by simp [Ne.symm hpi]), ?_⟩
    rw [hcallsAt, if_neg (Ne.symm hpi), List.append_nil]
  · rw [hcallsAt, if_pos rfl, hnone, Slot.slot_build]
    exact .building hs (congrArg (· + 1) hn) honly rfl ⟨σ, spec, _, t₁, rfl, hdeclare⟩ hgives

theorem finish (h : w.Lifecycle) {c place : Nat} {goal : Goal} {outcome : Except SpecError (Group β)}
    (hc : w.phase c = .builds place goal outcome) : (w.finish c place goal outcome).Lifecycle := by
  have hbuilds : w.Builds place c outcome := ⟨goal, hc⟩
  cases hp : w.registry.slots[place]? with
  | none => exact absurd hbuilds ((h.fresh hp).1 c outcome)
  | some entry =>
    obtain ⟨key, slot⟩ := entry
    obtain ⟨-, hn, honly, call, hcalls, ho, hg⟩ := (h.state hp).of_builds hbuilds
    apply h.alter hp rfl
    · intro i hpi
      refine ⟨builds_update rfl (by simp [hc, Ne.symm hpi]) (by simp), rfl⟩
    · refine .compiled rfl hn ?_ hcalls ho hg
      rintro c' o ⟨goal', hc'⟩
      simp only [Traffic.finish] at hc'
      by_cases hcc : c' = c
      · rw [hcc, Function.update_self] at hc'
        cases hc'
      · rw [Function.update_of_ne hcc] at hc'
        exact hcc ((honly c' o).mp ⟨goal', hc'⟩).1

theorem name (h : w.Lifecycle) {c place key n : Nat} {slot : Slot β} {tree : Group β}
    (names : List String) (hc : w.phase c = .names place n)
    (hp : w.registry.slots[place]? = some (key, slot)) (hs : slot.compiled = some (.ok tree)) :
    (w.name c place names).Lifecycle := by
  have hbuilds (i : Nat) : (w.name c place names).Builds i = w.Builds i :=
    builds_update rfl (by simp [hc]) (by simp)
  apply h.alter hp rfl
  · exact fun i _ => ⟨hbuilds i, rfl⟩
  · rw [hbuilds]
    rw [slot.mapTree_of_compiled hs]
    cases h.state hp with
    | idle hnone => cases hs.symm.trans hnone
    | building hnone => cases hs.symm.trans hnone
    | compiled hs' hn hb hcalls ho hg =>
      obtain rfl := Option.some.inj (hs.symm.trans hs')
      exact .compiled rfl hn hb hcalls ho (hg.congr (.compiled (tree.unnamed_assignNames _)))

theorem rootFor {spec : Spec β σ} {t t' : Thread σ} {slot : Slot β} {r : Registry β}
    (h : w.Lifecycle) (hr : w.registry.rootFor spec t = (.ok slot, r, t')) :
    Lifecycle { w with registry := r } := by
  rcases Registry.rootFor_ok hr with ⟨-, rfl⟩ | ⟨name, -, rfl⟩
  · exact h
  · exact h.insert spec.key name

theorem step (h : w.Lifecycle) {c : Nat} {w' : Traffic β} (hs : Step c w w') : w'.Lifecycle := by
  cases hs with
  | refuse hc hr =>
    obtain rfl := Registry.rootFor_error hr
    exact ⟨h.state, h.fresh⟩
  | ask goal hc hr hp => exact ((h.rootFor hr).enter (by simp [hc]) (by cases goal <;> simp)).note _
  | join goal hc hp => exact h.enter (by simp [hc]) (by simp)
  | begin t hc hp hs hq => exact h.begin hc hp hs hq
  | finish hc => exact h.finish hc
  | @receive place key goal slot outcome hc hp hs =>
    refine (h.enter (by simp [hc]) ?_).note _
    cases goal <;> cases outcome <;> simp [phaseAfter]
  | abandon hc hp hn => exact (h.enter (by simp [hc]) (by simp)).note _
  | name hc hp hs hn => exact h.name _ hc hp hs
  | bridge hc hp hs => exact (h.enter (by simp [hc]) (by simp)).note _

theorem runs (h : w.Lifecycle) {w' : Traffic β} (hr : w.Runs w') : w'.Lifecycle := by
  induction hr with
  | refl => exact h
  | tail _ hs ih =>
    obtain ⟨c, hs⟩ := hs
    exact ih.step hs

end Lifecycle

/-- Each key has one place, and slots were given out of these places only. -/
structure Registered (w : Traffic β) : Prop where
  nodup : w.registry.keys.Nodup
  asked_iff : ∀ {key place : Nat},
    (∃ c, .asked c key place ∈ w.log) ↔ w.registry.keys[place]? = some key

namespace Registered

variable {w : Traffic β}

theorem start : (Traffic.start : Traffic β).Registered := by
  refine ⟨List.nodup_nil, ?_⟩
  intro key place
  simp [Traffic.start, Registry.keys, Registry.empty]

theorem congr (h : w.Registered) {w' : Traffic β} (hk : w'.registry.keys = w.registry.keys)
    (ha : ∀ c key place, .asked c key place ∈ w'.log ↔ .asked c key place ∈ w.log) :
    w'.Registered := by
  refine ⟨hk ▸ h.nodup, ?_⟩
  intro key place
  simp only [ha, hk]
  exact h.asked_iff

theorem ask (h : w.Registered) {spec : Spec β σ} {t t' : Thread σ} {slot : Slot β} {r : Registry β}
    {c place : Nat} {phase : Phase β} (hr : w.registry.rootFor spec t = (.ok slot, r, t'))
    (hp : r.slots[place]? = some (spec.key, slot)) :
    (({ w with registry := r }.enter c phase).note (.asked c spec.key place)).Registered := by
  have hkey : r.keys[place]? = some spec.key := Registry.getElem?_keys hp
  have hasked (key' place' : Nat) :
      (∃ c', .asked c' key' place' ∈ w.log ++ [.asked c spec.key place]) ↔
        w.registry.keys[place']? = some key' ∨ key' = spec.key ∧ place' = place := by
    rw [← h.asked_iff]
    constructor
    · rintro ⟨c', hc'⟩
      rcases List.mem_append.mp hc' with hc' | hc'
      · exact .inl ⟨c', hc'⟩
      · right
        cases List.mem_singleton.mp hc'
        exact ⟨rfl, rfl⟩
    · rintro (⟨c', hc'⟩ | ⟨rfl, rfl⟩)
      · exact ⟨c', List.mem_append_left _ hc'⟩
      · exact ⟨c, List.mem_append_right _ (List.mem_singleton_self _)⟩
  rcases Registry.rootFor_ok hr with ⟨-, rfl⟩ | ⟨name, hnew, rfl⟩
  · -- the slot was there
    refine ⟨h.nodup, ?_⟩
    intro key' place'
    refine (hasked key' place').trans ⟨?_, .inl⟩
    rintro (h' | ⟨rfl, rfl⟩)
    · exact h'
    · exact hkey
  · -- the slot is new and comes last
    have hkeys := w.registry.keys_insert spec.key (.idle name)
    have happend (key' place' : Nat) : (w.registry.keys ++ [spec.key])[place']? = some key' ↔
        w.registry.keys[place']? = some key' ∨ key' = spec.key ∧ place' = w.registry.keys.length := by
      rcases Nat.lt_trichotomy place' w.registry.keys.length with hlt | rfl | hgt
      · rw [List.getElem?_append_left hlt]
        simp [Nat.ne_of_lt hlt]
      · simp [eq_comm]
      · have hnone : (w.registry.keys ++ [spec.key])[place']? = none :=
          List.getElem?_eq_none (by simpa [List.length_append] using Nat.succ_le_of_lt hgt)
        simp [hnone, List.getElem?_eq_none (Nat.le_of_lt hgt), Nat.ne_of_gt hgt]
    rw [hkeys, happend] at hkey
    obtain rfl : place = w.registry.keys.length := by
      rcases hkey with hold | ⟨-, hplace⟩
      · exact absurd (List.mem_of_getElem? hold) hnew
      · exact hplace
    refine ⟨?_, ?_⟩
    · exact hkeys ▸ h.nodup.append (List.nodup_singleton _) (by simpa using hnew)
    · intro key' place'
      refine (hasked key' place').trans ((happend key' place').symm.trans ?_)
      rw [← hkeys]
      rfl

theorem step (h : w.Registered) {c : Nat} {w' : Traffic β} (hs : Step c w w') : w'.Registered := by
  cases hs with
  | refuse hc hr =>
    obtain rfl := Registry.rootFor_error hr
    exact h.congr rfl (by simp [Traffic.note])
  | ask goal hc hr hp => exact h.ask hr hp
  | join goal hc hp => exact h.congr rfl fun _ _ _ => Iff.rfl
  | begin t hc hp hs hq => exact h.congr (w.registry.keys_alter _ _) fun _ _ _ => Iff.rfl
  | finish hc => exact h.congr (w.registry.keys_alter _ _) fun _ _ _ => Iff.rfl
  | receive hc hp hs => exact h.congr rfl (by simp [Traffic.note, Traffic.enter])
  | abandon hc hp hn => exact h.congr rfl (by simp [Traffic.note, Traffic.enter])
  | name hc hp hs hn => exact h.congr (w.registry.keys_alter _ _) fun _ _ _ => Iff.rfl
  | bridge hc hp hs => exact h.congr rfl (by simp [Traffic.note, Traffic.enter])

theorem runs (h : w.Registered) {w' : Traffic β} (hr : w.Runs w') : w'.Registered := by
  induction hr with
  | refl => exact h
  | tail _ hs ih =>
    obtain ⟨c, hs⟩ := hs
    exact ih.step hs

/-- There are as many slots as specs whose slots were given out. -/
theorem size_eq (h : w.Registered) :
    w.registry.size = (w.log.filterMap Occurrence.key?).toFinset.card := by
  have hkeys : w.registry.keys.toFinset = (w.log.filterMap Occurrence.key?).toFinset := by
    ext key
    rw [List.mem_toFinset, List.mem_toFinset, List.mem_filterMap, List.mem_iff_getElem?]
    simp only [← h.asked_iff]
    constructor
    · rintro ⟨place, c, hc⟩
      exact ⟨_, hc, rfl⟩
    · rintro ⟨o, ho, hkey⟩
      cases o with
      | asked c key' place =>
        obtain rfl : key' = key := Option.some.inj hkey
        exact ⟨place, c, ho⟩
      | _ => cases hkey
  rw [← hkeys, List.toFinset_card_of_nodup h.nodup, Registry.keys, List.length_map, Registry.size,
    Registry.held_eq]

/-- Callers that ask for one spec get one slot, and callers that ask for two get two. -/
theorem key_eq_iff (h : w.Registered) {c c' key key' place place' : Nat}
    (hc : .asked c key place ∈ w.log) (hc' : .asked c' key' place' ∈ w.log) :
    key = key' ↔ place = place' := by
  have hkey := h.asked_iff.mp ⟨c, hc⟩
  have hkey' := h.asked_iff.mp ⟨c', hc'⟩
  constructor
  · rintro rfl
    exact Registry.place_unique h.nodup hkey hkey'
  · rintro rfl
    exact Option.some.inj (hkey.symm.trans hkey')

end Registered

end Traffic

end Exemplar

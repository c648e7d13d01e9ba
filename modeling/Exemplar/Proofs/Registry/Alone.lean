import Exemplar.Proofs.Registry.History
import Exemplar.Proofs.Registry.Lifecycle

/-! One caller alone. If no other caller comes in between, the steps of a caller come to what the
operation does as a whole. -/

namespace Exemplar

variable {β σ : Type}

namespace Registry

/-- A slot is changed at its place as it is under its key. -/
theorem alter_eq_modify {r : Registry β} (hd : r.keys.Nodup) {place key : Nat} {slot : Slot β}
    (hp : r.slots[place]? = some (key, slot)) {f g : Slot β → Slot β} (hfg : f slot = g slot) :
    r.alter place f = r.modify key g := by
  have hslots : (r.alter place f).slots = (r.modify key g).slots := by
    apply List.ext_getElem?
    intro i
    rw [getElem?_alter, modify, List.getElem?_map]
    by_cases hpi : place = i
    · rw [if_pos hpi, ← hpi, hp]
      simp [hfg]
    · rw [if_neg hpi]
      cases hi : r.slots[i]? with
      | none => rfl
      | some entry =>
        have hne : entry.1 ≠ key := by
          intro hkey
          exact hpi (place_unique hd (getElem?_keys hp) (hkey ▸ getElem?_keys hi))
        rw [Option.map_some, if_neg hne]
  exact congrArg (Registry.mk · r.poisoned) hslots

theorem alter_congr {r : Registry β} {place key : Nat} {slot : Slot β}
    (hp : r.slots[place]? = some (key, slot)) {f g : Slot β → Slot β} (hfg : f slot = g slot) :
    r.alter place f = r.alter place g := by
  have hslots : (r.alter place f).slots = (r.alter place g).slots := by
    apply List.ext_getElem?
    intro i
    rw [getElem?_alter, getElem?_alter]
    by_cases hpi : place = i
    · rw [if_pos hpi, if_pos hpi, ← hpi, hp]
      simp [hfg]
    · rw [if_neg hpi, if_neg hpi]
  exact congrArg (Registry.mk · r.poisoned) hslots

theorem alter_alter (r : Registry β) (place : Nat) (f g : Slot β → Slot β) :
    (r.alter place f).alter place g = r.alter place (g ∘ f) := by
  rw [alter, alter, alter, List.modify_modify_eq]
  rfl

/-- The slot that is given out stands under the key of its spec. -/
theorem getElem?_of_rootFor {spec : Spec β σ} {r r' : Registry β} {t t' : Thread σ} {slot : Slot β}
    (h : r.rootFor spec t = (.ok slot, r', t')) :
    ∃ place : Nat, r'.slots[place]? = some (spec.key, slot) := by
  have hslot : r'.slot? spec.key = some slot := by
    rcases rootFor_cases spec r t with ⟨p, -, -, h'⟩ | ⟨slot', hs, h'⟩ | ⟨name, hs, -, h'⟩
    · cases congrArg Prod.fst (h'.symm.trans h)
    · obtain ⟨hslot, hrest⟩ := Prod.mk.inj (h'.symm.trans h)
      rw [← (Prod.mk.inj hrest).1, hs, Except.ok.inj hslot]
    · obtain ⟨hslot, hrest⟩ := Prod.mk.inj (h'.symm.trans h)
      rw [← (Prod.mk.inj hrest).1, slot?_insert_self hs, Except.ok.inj hslot]
  obtain ⟨front, back, hslots, -⟩ := List.lookup_eq_some_iff.mp hslot
  rw [held_eq] at hslots
  exact ⟨front.length, by rw [hslots]; simp⟩

theorem alter_id (r : Registry β) (place : Nat) : r.alter place id = r := by
  have hid : (Prod.map id id : Nat × Slot β → Nat × Slot β) = id := rfl
  rw [alter, hid, List.modify_id]

theorem getElem?_alter_self {r : Registry β} {place key : Nat} {slot : Slot β}
    (hp : r.slots[place]? = some (key, slot)) (f : Slot β → Slot β) :
    (r.alter place f).slots[place]? = some (key, f slot) := by
  rw [getElem?_alter, if_pos rfl, hp]
  rfl

end Registry

namespace Traffic

/-- Steps of one caller, and of no other. -/
def RunsAlone (c : Nat) : Traffic β → Traffic β → Prop := Relation.ReflTransGen (Step c)

variable {w : Traffic β} {c place : Nat}

theorem RunsAlone.runs {w' : Traffic β} (h : RunsAlone c w w') : w.Runs w' := by
  induction h with
  | refl => exact .refl
  | tail _ hs ih => exact ih.tail ⟨c, hs⟩

/-- By itself a caller has got the outcome of the declaration of a slot, with these calls of it. -/
structure Reaches (c place key : Nat) (goal : Goal) (outcome : Except SpecError (Group β))
    (calls : List (Declared β)) (w w' : Traffic β) : Prop where
  runs : RunsAlone c w w'
  compiled : ∃ slot, w'.registry.slots[place]? = some (key, slot) ∧ slot.compiled = some outcome
  calls_eq : w'.calls = w.calls ++ calls.map (place, ·)
  phase_eq : w'.phase c = phaseAfter place goal outcome
  last : w'.log.getLast? = some (.received c place outcome)

/-- A caller that has got a slot compiles it, unless that was done before, and reads the outcome. -/
theorem runsAlone_compile (hd : w.registry.keys.Nodup) {goal : Goal} {spec : Spec β σ} {slot : Slot β}
    (hc : w.phase c = .holds place goal) (hp : w.registry.slots[place]? = some (spec.key, slot))
    (hq : w.Quiet place) (t : Thread σ) :
    ∃ w', Reaches c place spec.key goal (slot.compile spec t).1
        (slot.compile spec.noting t.noted).2.2.calls w w' ∧
      w'.registry = w.registry.modify spec.key fun _ => (slot.compile spec t).2.1 := by
  cases hs : slot.compiled with
  | some outcome =>
    rw [Slot.compile_of_some hs, Slot.compile_of_some hs]
    refine ⟨_, ⟨.single (.receive hc hp hs), ⟨slot, hp, hs⟩, (List.append_nil _).symm,
      Function.update_self .., List.getLast?_concat ..⟩, ?_⟩
    have hsame := Registry.alter_eq_modify hd hp (f := id) (g := fun _ => slot) rfl
    exact (w.registry.alter_id place).symm.trans hsame
  | none =>
    obtain ⟨-, -, -, -, -, houtcome, -⟩ := slot.build_noting spec t.noted
    rw [Slot.compile_of_none hs, Slot.compile_of_none hs]
    let outcome := (slot.build spec t).1
    let w₁ := w.begin c place goal (slot.build spec.noting t.noted)
    let w₂ := w₁.finish c place goal outcome
    have hw₁ : w₁.registry = w.registry.alter place fun _ => slot.begin :=
      congrArg (fun slot => w.registry.alter place fun _ => slot) Slot.slot_build
    have hp₁ : w₁.registry.slots[place]? = some (spec.key, slot.begin) :=
      hw₁ ▸ Registry.getElem?_alter_self hp _
    have hp₂ : w₂.registry.slots[place]? = some (spec.key, slot.begin.finish outcome) :=
      Registry.getElem?_alter_self hp₁ _
    have hc₁ : w₁.phase c = .builds place goal outcome :=
      (Function.update_self ..).trans (congrArg (Phase.builds place goal) houtcome.symm)
    have begins : Step c w w₁ := .begin t hc hp hs hq
    have ends : Step c w₁ w₂ := .finish hc₁
    have gets : Step c w₂ _ := .receive (Function.update_self ..) hp₂ rfl
    refine ⟨_, ⟨((Relation.ReflTransGen.single begins).tail ends).tail gets, ⟨_, hp₂, rfl⟩, rfl,
      Function.update_self .., List.getLast?_concat ..⟩, ?_⟩
    have hw₂ : w₂.registry = (w.registry.alter place fun _ => slot.begin).alter place
        (·.finish outcome) := congrArg (·.alter place (·.finish outcome)) hw₁
    exact hw₂.trans ((w.registry.alter_alter place _ _).trans (Registry.alter_eq_modify hd hp rfl))

/-- A caller that is given a slot comes to the outcome, if nobody else runs the declaration. -/
theorem runsAlone_ask (hr : w.Registered) (hc : w.phase c = .free) {spec : Spec β σ} {slot : Slot β}
    {r : Registry β} {t t' : Thread σ} (hroot : w.registry.rootFor spec t = (.ok slot, r, t'))
    (hq : ∀ place, r.keys[place]? = some spec.key → w.Quiet place) (goal : Goal) :
    ∃ place w', Reaches c place spec.key goal (slot.compile spec t').1
        (slot.compile spec.noting t'.noted).2.2.calls w w' ∧
      w.registry.firstUse spec t =
        ((slot.compile spec t').1.mapError .failed, w'.registry, (slot.compile spec t').2.2) := by
  obtain ⟨place, hp⟩ := Registry.getElem?_of_rootFor hroot
  let w₁ := ({ w with registry := r }.enter c (.holds place goal)).note (.asked c spec.key place)
  have asks : Step c w w₁ := .ask (some goal) hc hroot hp
  have hheld : w₁.phase c = .holds place goal := Function.update_self ..
  have hquiet : w₁.Quiet place :=
    (hq place (Registry.getElem?_keys hp)).update rfl (by simp [hc]) (by simp)
  obtain ⟨w', hreaches, hregistry⟩ :=
    runsAlone_compile (hr.step asks).nodup hheld hp hquiet t'
  refine ⟨place, w', ⟨hreaches.runs.head asks, hreaches.compiled, hreaches.calls_eq,
    hreaches.phase_eq, hreaches.last⟩, ?_⟩
  rw [Registry.firstUse, hroot, hregistry]
  rfl

/-- Using a spec is to ask for its slot, to compile it and to read the outcome. -/
theorem runsAlone_firstUse (hl : w.Lifecycle) (hr : w.Registered) (hc : w.phase c = .free)
    {spec : Spec β σ} (hq : ∀ place, w.registry.keys[place]? = some spec.key → w.Quiet place)
    (goal : Goal) (t : Thread σ) :
    (∃ p, w.registry.firstUse spec t = (.error (.panicked p), w.registry.poison, t) ∧
      (w.registry.firstUse spec.noting t.noted).2.2.calls = [] ∧
      Step c w ({ w with registry := w.registry.poison }.note (.refused c spec.key))) ∨
    ∃ outcome t' place w', w.registry.firstUse spec t = (outcome.mapError .failed, w'.registry, t') ∧
      Reaches c place spec.key goal outcome (w.registry.firstUse spec.noting t.noted).2.2.calls
        w w' := by
  rcases Registry.rootFor_cases spec w.registry t with ⟨p, -, -, h⟩ | ⟨slot, -, h⟩ | ⟨name, hs, -, h⟩
  · exact .inl ⟨p, by rw [Registry.firstUse, h], Registry.calls_firstUse_of_error h, .refuse hc h⟩
  · obtain ⟨place, w', hreaches, hfirst⟩ := runsAlone_ask hr hc h hq goal
    rw [Registry.calls_firstUse_of_ok h]
    exact .inr ⟨_, _, place, w', hfirst, hreaches⟩
  · -- nobody runs the declaration of a slot that was just made
    have hnew : ∀ place, (w.registry.insert spec.key (.idle name)).keys[place]? = some spec.key →
        w.Quiet place := by
      intro place hkey
      cases hp : w.registry.slots[place]? with
      | none => exact (hl.fresh hp).1
      | some entry =>
        have hold : w.registry.keys[place]? = some entry.1 := Registry.getElem?_keys hp
        rw [Registry.keys_insert, List.getElem?_append_left (List.getElem?_eq_some_iff.mp hold).1,
          hold] at hkey
        rw [Option.some.inj hkey] at hold
        exact absurd (List.mem_of_getElem? hold) (Registry.slot?_eq_none_iff.mp hs)
    obtain ⟨place, w', hreaches, hfirst⟩ := runsAlone_ask hr hc h hnew goal
    rw [Registry.calls_firstUse_of_ok h]
    exact .inr ⟨_, _, place, w', hfirst, hreaches⟩

/-- Naming the examples of a tree one by one is naming them all. -/
theorem runsAlone_names {key : Nat} {slot : Slot β} {tree : Group β} (hc : w.phase c = .names place 0)
    (hp : w.registry.slots[place]? = some (key, slot)) (hs : slot.compiled = some (.ok tree)) {n : Nat}
    (hn : n ≤ tree.exampleCount) :
    ∃ w', RunsAlone c w w' ∧ w'.phase c = .names place n ∧ w'.calls = w.calls ∧ w'.registry =
      w.registry.alter place (·.mapTree (·.assignNames (tree.identifiers.take n))) := by
  induction n with
  | zero =>
    refine ⟨w, .refl, hc, rfl, ?_⟩
    have hnone : slot.mapTree (·.assignNames []) = slot := by
      rw [slot.mapTree_of_compiled hs, tree.assignNames_nil, ← hs]
    exact (w.registry.alter_id place).symm.trans (Registry.alter_congr hp hnone.symm)
  | succ n ih =>
    obtain ⟨w₁, hruns, hphase, hcalls, hregistry⟩ := ih (Nat.le_of_succ_le hn)
    let named := tree.assignNames (tree.identifiers.take n)
    have hids : named.identifiers = tree.identifiers :=
      Group.identifiers_congr (tree.unnamed_assignNames _)
    have hcount : named.exampleCount = tree.exampleCount :=
      Group.exampleCount_congr (tree.unnamed_assignNames _)
    have hp₁ : w₁.registry.slots[place]? = some (key, { slot with compiled := some (.ok named) }) := by
      rw [hregistry, Registry.getElem?_alter_self hp, slot.mapTree_of_compiled hs]
    have names : Step c w₁ _ := .name hphase hp₁ rfl (by omega)
    refine ⟨_, hruns.tail names, ?_, hcalls, ?_⟩
    · have hlength : (named.identifiers.take (n + 1)).length = n + 1 := by
        rw [List.length_take, named.length_identifiers]
        omega
      simp only [Traffic.name, Function.update_self, hlength]
    · -- the first names stay when the next is given
      have hprefix : tree.identifiers.take n <+: tree.identifiers.take (n + 1) :=
        List.take_prefix_take_left (Nat.le_succ n)
      have hboth : (slot.mapTree (·.assignNames (tree.identifiers.take n))).mapTree
          (·.assignNames (named.identifiers.take (n + 1))) =
          slot.mapTree (·.assignNames (tree.identifiers.take (n + 1))) := by
        rw [slot.mapTree_of_compiled hs, Slot.mapTree_of_compiled _ rfl, slot.mapTree_of_compiled hs,
          hids, tree.assignNames_assignNames hprefix]
      rw [Traffic.name, hregistry, Registry.alter_alter]
      exact Registry.alter_congr hp hboth

/-- By itself a caller comes to a state with this registry, with nothing left to do. Of the declaration
of a spec it made these calls. -/
structure Comes (c key : Nat) (r : Registry β) (calls : List (Declared β)) (w w' : Traffic β) :
    Prop where
  runs : RunsAlone c w w'
  registry_eq : w'.registry = r
  free : w'.phase c = .free
  calls_eq : ∃ place, w'.calls = w.calls ++ calls.map (place, ·) ∧
    (calls ≠ [] → w'.registry.keys[place]? = some key)

theorem Comes.of_no_calls {key : Nat} {r : Registry β} {w' : Traffic β} (h : RunsAlone c w w')
    (hr : w'.registry = r) (hc : w'.phase c = .free) (hcalls : w'.calls = w.calls) :
    Comes c key r [] w w' := by
  refine ⟨h, hr, hc, 0, ?_, fun hne => absurd rfl hne⟩
  rw [hcalls, List.map_nil, List.append_nil]

/-- Making a bridge over a whole spec is to use the spec and to name its examples one by one. -/
theorem runsAlone_bridgeFor (hl : w.Lifecycle) (hr : w.Registered) (hc : w.phase c = .free)
    {spec : Spec β σ} (hq : ∀ place, w.registry.keys[place]? = some spec.key → w.Quiet place)
    (config : Config) (t : Thread σ) :
    ∃ w', Comes c spec.key (w.registry.bridgeFor spec config t).2.1
        (w.registry.bridgeFor spec.noting config t.noted).2.2.calls w w' ∧
      ∀ bridge, (w.registry.bridgeFor spec config t).1 = .ok bridge →
        ∃ place, w'.log.getLast? = some (.bridged c place) := by
  rw [(Registry.bridgeFor_noting spec w.registry t config).2]
  rcases runsAlone_firstUse hl hr hc hq .bridge t with ⟨p, hfirst, hcalls, hstep⟩ |
    ⟨outcome, t', place, w₁, hfirst, hreaches⟩
  · rw [Registry.bridgeFor, hfirst, hcalls]
    exact ⟨_, .of_no_calls (.single hstep) rfl hc rfl, fun _ h => by cases h⟩
  obtain ⟨slot, hp, hs⟩ := hreaches.compiled
  have hkey := Registry.getElem?_keys hp
  cases outcome with
  | error e =>
    have hfirst' : w.registry.firstUse spec t = (.error (.failed e), w₁.registry, t') := hfirst
    rw [Registry.bridgeFor, hfirst']
    exact ⟨w₁, ⟨hreaches.runs, rfl, hreaches.phase_eq, place, hreaches.calls_eq, fun _ => hkey⟩,
      fun _ h => by cases h⟩
  | ok tree =>
    have hfirst' : w.registry.firstUse spec t = (.ok tree, w₁.registry, t') := hfirst
    cases hn : spec.name with
    | error p =>
      rw [Registry.bridgeFor, hfirst', hn]
      exact ⟨_, ⟨hreaches.runs.tail (.abandon hreaches.phase_eq hp hn), rfl, Function.update_self ..,
        place, hreaches.calls_eq, fun _ => hkey⟩, fun _ h => by cases h⟩
    | ok name =>
      obtain ⟨w₂, hnames, hphase₂, hcalls₂, hregistry⟩ :=
        runsAlone_names hreaches.phase_eq hp hs (Nat.le_refl _)
      have hall : tree.identifiers.take tree.exampleCount = tree.identifiers := by
        rw [← tree.length_identifiers, List.take_length]
      rw [hall] at hregistry
      have hp₂ : w₂.registry.slots[place]? =
          some (spec.key, { slot with compiled := some (.ok tree.named) }) := by
        rw [hregistry, Registry.getElem?_alter_self hp, slot.mapTree_of_compiled hs,
          tree.named_eq_assignNames]
      have hcount : tree.named.exampleCount = tree.exampleCount :=
        Group.exampleCount_congr tree.unnamed_named
      have bridges : Step c w₂ _ := .bridge (hcount ▸ hphase₂) hp₂ rfl
      have hall' : slot.mapTree (·.assignNames tree.identifiers) =
          slot.mapTree fun _ => tree.named := by
        rw [slot.mapTree_of_compiled hs, slot.mapTree_of_compiled hs, tree.named_eq_assignNames]
      have hmodify := hregistry.trans (Registry.alter_eq_modify (hr.runs hreaches.runs.runs).nodup hp
        (g := fun slot => slot.mapTree fun _ => tree.named) hall')
      rw [Registry.bridgeFor, hfirst', hn]
      refine ⟨_, ⟨(hreaches.runs.trans hnames).tail bridges, hmodify, Function.update_self .., place,
        hcalls₂.trans hreaches.calls_eq, fun _ => Registry.getElem?_keys hp₂⟩, ?_⟩
      exact fun _ _ => ⟨place, List.getLast?_concat ..⟩

/-- Each operation on a spec, as a whole, is what a caller comes to by itself: the registry, the calls of
the declaration and what the caller gets are the same. -/
structure Whole (w : Traffic β) (c : Nat) (spec : Spec β σ) (t : Thread σ) : Prop where
  rootFor : ∃ w', Comes c spec.key (w.registry.rootFor spec t).2.1
      (w.registry.rootFor spec.noting t.noted).2.2.calls w w' ∧
    ∀ slot, (w.registry.rootFor spec t).1 = .ok slot → ∃ place : Nat,
      w'.registry.slots[place]? = some (spec.key, slot) ∧
      w'.log.getLast? = some (.asked c spec.key place)
  compile : ∀ (place : Nat) (slot : Slot β), w.registry.slots[place]? = some (spec.key, slot) →
    ∃ w', Comes c spec.key (w.registry.modify spec.key fun _ => (slot.compile spec t).2.1)
        (slot.compile spec.noting t.noted).2.2.calls w w' ∧
      w'.log.getLast? = some (.received c place (slot.compile spec t).1)
  firstUse : ∃ w', Comes c spec.key (w.registry.firstUse spec t).2.1
      (w.registry.firstUse spec.noting t.noted).2.2.calls w w' ∧
    ∀ outcome, (w.registry.firstUse spec t).1 = outcome.mapError .failed →
      ∃ place, w'.log.getLast? = some (.received c place outcome)
  bridgeFor : ∀ config, ∃ w', Comes c spec.key (w.registry.bridgeFor spec config t).2.1
      (w.registry.bridgeFor spec.noting config t.noted).2.2.calls w w' ∧
    ∀ bridge, (w.registry.bridgeFor spec config t).1 = .ok bridge →
      ∃ place, w'.log.getLast? = some (.bridged c place)
  runSpecWith : ∀ {ρ : Type} (exec : β → Action σ) (recorder : Recorder ρ) config host, ∃ w',
    Comes c spec.key (w.registry.runSpecWith exec recorder spec config ⟨t, host⟩).2.1
      (w.registry.runSpecWith (keeping exec) recorder spec.noting config
        ⟨t.noted, host⟩).2.2.thread.calls w w'

theorem runsAlone_rootFor (hc : w.phase c = .free) (spec : Spec β σ) (t : Thread σ) :
    ∃ w', Comes c spec.key (w.registry.rootFor spec t).2.1
        (w.registry.rootFor spec.noting t.noted).2.2.calls w w' ∧
      ∀ slot, (w.registry.rootFor spec t).1 = .ok slot → ∃ place : Nat,
        w'.registry.slots[place]? = some (spec.key, slot) ∧
        w'.log.getLast? = some (.asked c spec.key place) := by
  rw [Registry.rootFor_noting]
  rcases h : w.registry.rootFor spec t with ⟨p | slot, r, t'⟩
  · exact ⟨_, .of_no_calls (.single (.refuse hc h)) rfl hc rfl, fun _ h => by cases h⟩
  · obtain ⟨place, hp⟩ := Registry.getElem?_of_rootFor h
    refine ⟨_, .of_no_calls (.single (.ask none hc h hp)) rfl (Function.update_self ..) rfl, ?_⟩
    intro slot' hslot
    obtain rfl := Except.ok.inj hslot
    exact ⟨place, hp, List.getLast?_concat ..⟩

theorem whole (hl : w.Lifecycle) (hr : w.Registered) (hc : w.phase c = .free) {spec : Spec β σ}
    (hq : ∀ place, w.registry.keys[place]? = some spec.key → w.Quiet place) (t : Thread σ) :
    w.Whole c spec t where
  rootFor := runsAlone_rootFor hc spec t
  compile := by
    intro place slot hp
    have hlt : place < w.registry.size := by
      rw [Registry.size, Registry.held_eq]
      exact (List.getElem?_eq_some_iff.mp hp).1
    let w₁ := w.enter c (.holds place .tree)
    have joins : Step c w w₁ := .join .tree hc hlt
    have hheld : w₁.phase c = .holds place .tree := Function.update_self ..
    have hquiet : w₁.Quiet place :=
      (hq place (Registry.getElem?_keys hp)).update rfl (by simp [hc]) (by simp)
    obtain ⟨w', hreaches, hregistry⟩ :=
      runsAlone_compile (hr.step joins).nodup hheld hp hquiet t
    obtain ⟨slot', hp', -⟩ := hreaches.compiled
    exact ⟨w', ⟨hreaches.runs.head joins, hregistry, hreaches.phase_eq, place, hreaches.calls_eq,
      fun _ => Registry.getElem?_keys hp'⟩, hreaches.last⟩
  firstUse := by
    rcases runsAlone_firstUse hl hr hc hq .tree t with ⟨p, hfirst, hcalls, hstep⟩ |
      ⟨outcome, t', place, w', hfirst, hreaches⟩
    · rw [hfirst, hcalls]
      refine ⟨_, .of_no_calls (.single hstep) rfl hc rfl, ?_⟩
      intro outcome houtcome
      cases outcome <;> cases houtcome
    · obtain ⟨slot, hp, -⟩ := hreaches.compiled
      rw [hfirst]
      refine ⟨w', ⟨hreaches.runs, rfl, hreaches.phase_eq, place, hreaches.calls_eq,
        fun _ => Registry.getElem?_keys hp⟩, ?_⟩
      intro outcome' houtcome
      have hsame : outcome = outcome' := by
        cases outcome <;> cases outcome' <;> cases houtcome <;> rfl
      exact ⟨place, hsame ▸ hreaches.last⟩
  bridgeFor := fun config => runsAlone_bridgeFor hl hr hc hq config t
  runSpecWith := by
    intro ρ exec recorder config host
    obtain ⟨w', hcomes, -⟩ := runsAlone_bridgeFor hl hr hc hq config t
    rw [Registry.runSpecWith_registry, Registry.runSpecWith_noting]
    exact ⟨w', hcomes⟩

end Traffic

end Exemplar

import Exemplar.Proofs.Registry.Alone

namespace Exemplar

variable {β σ : Type}

namespace Traffic

/-- What may become of the slots in the course of time: there come more of them, and the outcome of a
declaration stays but for the names in a tree. All who get it later get the same. -/
structure Later (w w' : Traffic β) : Prop where
  slots : (w.registry.slots.map fun entry => (entry.1, entry.2.name)) <+:
    w'.registry.slots.map fun entry => (entry.1, entry.2.name)
  persists : ∀ place, Registry.Persists (w.registry.outcomeAt place) (w'.registry.outcomeAt place)
  calls : w.calls <+: w'.calls
  log : ∃ more, w'.log = w.log ++ more ∧ ∀ c place given outcome, .received c place given ∈ more →
    w.registry.outcomeAt place = some outcome → Registry.Persists (some outcome) (some given)

namespace Later

theorem refl (w : Traffic β) : w.Later w := by
  refine ⟨List.prefix_rfl, fun _ => .refl _, List.prefix_rfl, [], (List.append_nil _).symm, ?_⟩
  intro c place given outcome h
  cases h

/-- A slot stays at its place, with its name. -/
theorem getElem? {w w' : Traffic β} (h : w.Later w') {place key : Nat} {slot : Slot β}
    (hp : w.registry.slots[place]? = some (key, slot)) :
    ∃ slot', w'.registry.slots[place]? = some (key, slot') ∧ slot'.name = slot.name := by
  obtain ⟨rest, hrest⟩ := h.slots
  have hbefore : (w.registry.slots.map fun entry => (entry.1, entry.2.name))[place]? =
      some (key, slot.name) := by
    rw [List.getElem?_map, hp]
    rfl
  have hafter : (w'.registry.slots.map fun entry => (entry.1, entry.2.name))[place]? =
      some (key, slot.name) := by
    rw [← hrest, List.getElem?_append_left (List.getElem?_eq_some_iff.mp hbefore).1, hbefore]
  rw [List.getElem?_map] at hafter
  obtain ⟨⟨key', slot'⟩, hp', hsame⟩ := Option.map_eq_some_iff.mp hafter
  obtain ⟨rfl, hname⟩ := Prod.mk.inj hsame
  exact ⟨slot', hp', hname⟩

theorem trans {w w' w'' : Traffic β} (h : w.Later w') (h' : w'.Later w'') : w.Later w'' := by
  obtain ⟨more, hmore, hgiven⟩ := h.log
  obtain ⟨more', hmore', hgiven'⟩ := h'.log
  refine ⟨h.slots.trans h'.slots, fun place => (h.persists place).trans (h'.persists place),
    h.calls.trans h'.calls, more ++ more', by rw [hmore', hmore, List.append_assoc], ?_⟩
  intro c place given outcome hc ho
  rcases List.mem_append.mp hc with hc | hc
  · exact hgiven c place given outcome hc ho
  · -- what is stored at the time in between is what was stored before
    have hp := h.persists place
    rw [ho] at hp
    cases hs : w'.registry.outcomeAt place with
    | none =>
      rw [hs] at hp
      cases hp
    | some outcome' =>
      rw [hs] at hp
      exact hp.trans (hgiven' c place given outcome' hc hs)

variable {w w' : Traffic β} {more : List (Occurrence β)}

/-- Nothing is changed, and what is handed out is what is there. -/
theorem same (hr : w'.registry.slots = w.registry.slots) (hcalls : w.calls <+: w'.calls)
    (hl : w'.log = w.log ++ more) (hgiven : ∀ c place given, .received c place given ∈ more →
      w.registry.outcomeAt place = some given) : w.Later w' := by
  have houtcome (place : Nat) : w'.registry.outcomeAt place = w.registry.outcomeAt place := by
    rw [Registry.outcomeAt, Registry.outcomeAt, hr]
  refine ⟨by rw [hr], fun place => by rw [houtcome]; exact .refl _, hcalls, more, hl, ?_⟩
  intro c place given outcome hc ho
  rw [hgiven c place given hc] at ho
  rw [ho]
  exact .refl _

theorem alter {place key : Nat} {slot : Slot β} {f : Slot β → Slot β}
    (hp : w.registry.slots[place]? = some (key, slot)) (hr : w'.registry = w.registry.alter place f)
    (hname : (f slot).name = slot.name)
    (hpersists : Registry.Persists slot.compiled (f slot).compiled) (hcalls : w.calls <+: w'.calls)
    (hl : w'.log = w.log ++ more) (hnone : ∀ c place given, .received c place given ∉ more) :
    w.Later w' := by
  have hslots (i : Nat) : w'.registry.slots[i]? =
      if place = i then w.registry.slots[i]?.map (Prod.map id f) else w.registry.slots[i]? := by
    rw [hr, Registry.getElem?_alter]
  refine ⟨?_, ?_, hcalls, more, hl, fun c place given outcome hc => absurd hc (hnone c place given)⟩
  · have hsame : (w'.registry.slots.map fun entry => (entry.1, entry.2.name)) =
        w.registry.slots.map fun entry => (entry.1, entry.2.name) := by
      apply List.ext_getElem?
      intro i
      rw [List.getElem?_map, List.getElem?_map, hslots]
      by_cases hpi : place = i
      · rw [if_pos hpi, ← hpi, hp]
        simp [hname]
      · rw [if_neg hpi]
    rw [hsame]
  · intro i
    rw [Registry.outcomeAt, Registry.outcomeAt, hslots]
    by_cases hpi : place = i
    · rw [if_pos hpi, ← hpi, hp]
      exact hpersists
    · rw [if_neg hpi]
      exact .refl _

theorem insert {key : Nat} {name : String} (hr : w'.registry = w.registry.insert key (.idle name))
    (hcalls : w.calls <+: w'.calls) (hl : w'.log = w.log ++ more)
    (hnone : ∀ c place given, .received c place given ∉ more) : w.Later w' := by
  refine ⟨?_, ?_, hcalls, more, hl, fun c place given outcome hc => absurd hc (hnone c place given)⟩
  · rw [hr, Registry.insert, Registry.held_eq, List.map_append]
    exact List.prefix_append _ _
  · intro place
    rw [hr, Registry.outcomeAt, Registry.outcomeAt, Registry.insert, Registry.held_eq,
      List.getElem?_append]
    split
    · exact .refl _
    · next hlt =>
      rw [List.getElem?_eq_none (Nat.le_of_not_lt hlt)]
      exact .undone _

theorem step (h : w.Lifecycle) {c : Nat} (hs : Step c w w') : w.Later w' := by
  cases hs with
  | refuse hc hr =>
    obtain rfl := Registry.rootFor_error hr
    exact same rfl List.prefix_rfl rfl (by simp)
  | ask goal hc hr hp =>
    rcases Registry.rootFor_ok hr with ⟨-, rfl⟩ | ⟨name, -, rfl⟩
    · exact same rfl List.prefix_rfl rfl (by simp)
    · exact insert rfl List.prefix_rfl rfl (by simp)
  | join goal hc hp => exact same rfl List.prefix_rfl (List.append_nil _).symm (by simp)
  | @begin σ spec t place goal slot hc hp hs hq =>
    refine alter hp rfl ?_ ?_ (List.prefix_append _ _) (List.append_nil _).symm (by simp)
    · rw [Slot.slot_build]
      rfl
    · rw [Slot.slot_build]
      exact .refl _
  | @finish place goal outcome hc =>
    have hbuilds : w.Builds place c outcome := ⟨goal, hc⟩
    cases hp : w.registry.slots[place]? with
    | none => exact absurd hbuilds ((h.fresh hp).1 c outcome)
    | some entry =>
      have hnone : entry.2.compiled = none := ((h.state hp).of_builds hbuilds).1
      refine alter hp rfl rfl ?_ List.prefix_rfl (List.append_nil _).symm (by simp)
      rw [hnone]
      exact .undone _
  | @receive place key goal slot outcome hc hp hs =>
    refine same rfl List.prefix_rfl rfl ?_
    intro c' place' given hgiven
    cases List.mem_singleton.mp hgiven
    rw [Registry.outcomeAt_of_getElem? hp, hs]
  | abandon hc hp hn => exact same rfl List.prefix_rfl rfl (by simp)
  | @name place key n slot tree hc hp hs hn =>
    have hslot := slot.mapTree_of_compiled hs (·.assignNames (tree.identifiers.take (n + 1)))
    refine alter hp rfl ?_ ?_ List.prefix_rfl (List.append_nil _).symm (by simp)
    · rw [hslot]
    · rw [hslot, hs]
      exact .compiled (tree.unnamed_assignNames _)
  | bridge hc hp hs => exact same rfl List.prefix_rfl rfl (by simp)

theorem runs (h : w.Lifecycle) (hr : w.Runs w') : w.Later w' := by
  induction hr with
  | refl => exact refl w
  | tail hr hs ih =>
    obtain ⟨c, hs⟩ := hs
    exact ih.trans (step (h.runs hr) hs)

end Later

/-- The one step of a caller that has got a compiled slot is to read the outcome. -/
theorem Step.of_compiled {w w' : Traffic β} {c place key : Nat} {goal : Goal} {slot : Slot β}
    {outcome : Except SpecError (Group β)} (h : Step c w w') (hc : w.phase c = .holds place goal)
    (hp : w.registry.slots[place]? = some (key, slot)) (hs : slot.compiled = some outcome) :
    w' = (w.enter c (phaseAfter place goal outcome)).note (.received c place outcome) := by
  cases h with
  | @receive place' key' goal' slot' outcome' hc' hp' hs' =>
    obtain ⟨rfl, rfl⟩ := Phase.holds.inj (hc.symm.trans hc')
    obtain ⟨-, rfl⟩ := Prod.mk.inj (Option.some.inj (hp.symm.trans hp'))
    obtain rfl := Option.some.inj (hs.symm.trans hs')
    rfl
  | @begin _ spec t place' goal' slot' hc' hp' hs' =>
    obtain ⟨rfl, rfl⟩ := Phase.holds.inj (hc.symm.trans hc')
    obtain ⟨-, rfl⟩ := Prod.mk.inj (Option.some.inj (hp.symm.trans hp'))
    cases hs.symm.trans hs'
  | refuse hc' => cases hc.symm.trans hc'
  | ask _ hc' => cases hc.symm.trans hc'
  | join _ hc' => cases hc.symm.trans hc'
  | finish hc' => cases hc.symm.trans hc'
  | abandon hc' => cases hc.symm.trans hc'
  | name hc' => cases hc.symm.trans hc'
  | bridge hc' => cases hc.symm.trans hc'

/-- The counter of a slot is the number of times that its declaration was called, once at most. The
slot is compiled as soon as the declaration was called and nobody runs it, and it holds what the call
ended with. -/
structure Counted (w : Traffic β) (place key : Nat) (slot : Slot β) : Prop where
  compilations_eq : slot.compilations = (w.callsAt place).length
  calls_le : (w.callsAt place).length ≤ 1
  called : ∀ call ∈ w.callsAt place, call.Of key
  isCompiled_iff : slot.isCompiled ↔ w.callsAt place ≠ [] ∧ w.Quiet place
  gives : ∀ outcome, slot.compiled = some outcome →
    ∃ call, w.callsAt place = [call] ∧ call.Gives slot.name outcome

theorem Lifecycle.counted {w : Traffic β} (h : w.Lifecycle) {place key : Nat} {slot : Slot β}
    (hp : w.registry.slots[place]? = some (key, slot)) : w.Counted place key slot := by
  cases h.state hp with
  | idle hs hn hb hcalls =>
    exact ⟨by simp [hn, hcalls], by simp [hcalls], by simp [hcalls],
      by simp [Slot.isCompiled, hs, hcalls], by simp [hs]⟩
  | @building c outcome call hs hn hb hcalls ho hg =>
    have hbusy : ¬ w.Quiet place := fun hq => hq c outcome ((hb c outcome).mpr ⟨rfl, rfl⟩)
    exact ⟨by simp [hn, hcalls], by simp [hcalls], by simpa [hcalls] using ho,
      by simp [Slot.isCompiled, hs, hbusy], by simp [hs]⟩
  | @compiled outcome call hs hn hb hcalls ho hg =>
    have hquiet : w.Quiet place := hb
    refine ⟨by simp [hn, hcalls], by simp [hcalls], by simpa [hcalls] using ho,
      by simp [Slot.isCompiled, hs, hcalls, hquiet], ?_⟩
    intro outcome' hs'
    obtain rfl := Option.some.inj (hs.symm.trans hs')
    exact ⟨call, hcalls, hg⟩

/-- An outcome that a slot holds is there for good. The declaration is not called again. Who asks for the
spec gets this slot, who compiles or uses it gets this outcome, an error as it is and a tree perhaps with
names, and nothing else happens, whatever the declaration would give by now. -/
structure Settled (w w' : Traffic β) (place key : Nat) (slot : Slot β)
    (outcome : Except SpecError (Group β)) : Prop where
  stays : Registry.Persists (some outcome) (w'.registry.outcomeAt place)
  calls_eq : w'.callsAt place = w.callsAt place
  received : ∃ more, w'.log = w.log ++ more ∧ ∀ c given, .received c place given ∈ more →
    Registry.Persists (some outcome) (some given)
  reused : ∃ slot' given, w'.registry.slots[place]? = some (key, slot') ∧ slot'.name = slot.name ∧
    Registry.Persists (some outcome) (some given) ∧
    ∀ {σ : Type} (spec : Spec β σ) (t : Thread σ), spec.key = key →
      w'.registry.rootFor spec t = (.ok slot', w'.registry, t) ∧
      slot'.compile spec t = (given, slot', t) ∧
      w'.registry.firstUse spec t = (given.mapError .failed, w'.registry, t)
  answered : ∀ c goal, w'.phase c = .holds place goal → ∃ given,
    w'.registry.outcomeAt place = some given ∧ (∃ w'', Step c w' w'') ∧ ∀ w'', Step c w' w'' →
      w''.registry = w'.registry ∧ w''.calls = w'.calls ∧ w''.log = w'.log ++ [.received c place given]

theorem callsAt_mono {w w' : Traffic β} (h : w.calls <+: w'.calls) (place : Nat) :
    w.callsAt place <+: w'.callsAt place := by
  obtain ⟨more, hmore⟩ := h
  rw [callsAt, callsAt, ← hmore, List.filterMap_append]
  exact List.prefix_append _ _

theorem settled {w w' : Traffic β} (h : w.Lifecycle) (hreg : w.Registered) (hr : w.Runs w')
    {place key : Nat} {slot : Slot β} {outcome : Except SpecError (Group β)}
    (hp : w.registry.slots[place]? = some (key, slot)) (hs : slot.compiled = some outcome) :
    w.Settled w' place key slot outcome := by
  have hlater := Later.runs h hr
  obtain ⟨slot', hp', hname⟩ := hlater.getElem? hp
  have hstays := hlater.persists place
  have hoo : w.registry.outcomeAt place = some outcome :=
    (Registry.outcomeAt_of_getElem? hp).trans hs
  have hoo' := Registry.outcomeAt_of_getElem? hp'
  rw [hoo] at hstays
  obtain ⟨given, hgiven⟩ : ∃ given, slot'.compiled = some given := by
    cases hc : slot'.compiled with
    | some given => exact ⟨given, rfl⟩
    | none =>
      rw [hoo', hc] at hstays
      cases hstays
  have hpersists : Registry.Persists (some outcome) (some given) := by
    rwa [hoo', hgiven] at hstays
  obtain ⟨call, hcalls, -⟩ := (h.state hp).of_compiled hs
  obtain ⟨call', hcalls', -⟩ := ((h.runs hr).state hp').of_compiled hgiven
  refine ⟨hstays, ?_, ?_, ⟨slot', given, hp', hname, hpersists, ?_⟩, ?_⟩
  · refine ((callsAt_mono hlater.calls place).eq_of_length ?_).symm
    rw [hcalls, hcalls']
    rfl
  · obtain ⟨more, hmore, hreceived⟩ := hlater.log
    exact ⟨more, hmore, fun c given hc => hreceived c place given outcome hc hoo⟩
  · rintro σ spec t rfl
    have hnodup := (hreg.runs hr).nodup
    have hslot : w'.registry.slot? spec.key = some slot' :=
      Registry.slot?_of_mem hnodup (List.mem_of_getElem? hp')
    have hroot : w'.registry.rootFor spec t = (.ok slot', w'.registry, t) := by
      rw [Registry.rootFor, hslot]
    have hcompile : slot'.compile spec t = (given, slot', t) := Slot.compile_of_some hgiven
    refine ⟨hroot, hcompile, ?_⟩
    rw [Registry.firstUse, hroot]
    simp only [hcompile, Registry.modify_eq_self hnodup hslot]
  · intro c goal hc
    refine ⟨given, hoo'.trans hgiven, ⟨_, .receive hc hp' hgiven⟩, ?_⟩
    intro w'' hstep
    obtain rfl := hstep.of_compiled hc hp' hgiven
    exact ⟨rfl, rfl, rfl⟩

/-- Whatever callers do and in whatever order: the declaration of a slot is called once at most, what
the call ended with is what all get, callers that ask for one spec get one slot, no slot is removed or
replaced, and there are as many slots as specs whose slots were given out. The steps are those of the
operations: what each of these does as a whole, one caller does by itself. -/
theorem compiled_once {w w' : Traffic β} (h : Traffic.start.Runs w) (h' : w.Runs w') :
    (∀ (place key : Nat) (slot : Slot β), w.registry.slots[place]? = some (key, slot) →
      w.Counted place key slot ∧
        ∀ outcome, slot.compiled = some outcome → w.Settled w' place key slot outcome) ∧
    (∀ c c' key key' place place' : Nat, .asked c key place ∈ w.log →
      .asked c' key' place' ∈ w.log → (key = key' ↔ place = place')) ∧
    (w.registry.slots.map fun entry => (entry.1, entry.2.name)) <+:
      (w'.registry.slots.map fun entry => (entry.1, entry.2.name)) ∧
    w.registry.size = (w.log.filterMap Occurrence.key?).toFinset.card ∧
    ∀ {σ : Type} (c : Nat) (spec : Spec β σ) (t : Thread σ), w.phase c = .free →
      (∀ place, w.registry.keys[place]? = some spec.key → w.Quiet place) → w.Whole c spec t := by
  have hlife := Lifecycle.start.runs h
  have hreg := Registered.start.runs h
  refine ⟨?_, ?_, (Later.runs hlife h').slots, hreg.size_eq, ?_⟩
  · intro place key slot hp
    exact ⟨hlife.counted hp, fun outcome hs => settled hlife hreg h' hp hs⟩
  · intro c c' key key' place place' hc hc'
    exact hreg.key_eq_iff hc hc'
  · intro σ c spec t hc hq
    exact whole hlife hreg hc hq t

/-- Two callers ask for a spec whose declaration panics, and the second waits for the first. -/
theorem compiled_once_panic :
    let e : Except SpecError (Group Unit) := .error (.compilation "s" "boom")
    ∃ (w w' : Traffic Unit) (slot : Slot Unit), Traffic.start.Runs w ∧ w.Runs w' ∧
      w.registry.slots[0]? = some (0, slot) ∧ slot.compiled = some e ∧ w.Counted 0 0 slot ∧
      w.Settled w' 0 0 slot e ∧ w'.calls = [(0, ⟨some (.text "boom"), .start⟩)] ∧
      w.log = [.asked 0 0 0, .asked 1 0 0] ∧
      w'.log = w.log ++ [.received 1 0 e, .received 0 0 e] ∧ w'.registry.size = 1 := by
  intro e
  let spec : Spec Unit Unit :=
    ⟨0, .ok "s", fun b t => (some (.text "boom"), b, t), fun _ _ => .same⟩
  let t : Thread Unit := .fresh ()
  let slot : Slot Unit := (Slot.idle "s").begin.finish e
  let w₁ : Traffic Unit := ({ Traffic.start with registry := ⟨[(0, .idle "s")], false⟩ }.enter 0
    (.holds 0 .tree)).note (.asked 0 0 0)
  let w₂ := (w₁.enter 1 (.holds 0 .tree)).note (.asked 1 0 0)
  let w₃ := w₂.begin 0 0 .tree ((Slot.idle "s").build spec.noting t.noted)
  let w₄ := w₃.finish 0 0 .tree e
  let w₅ := (w₄.enter 1 .free).note (.received 1 0 e)
  have hquiet : w₂.Quiet 0 := by
    rintro c outcome ⟨goal, hc⟩
    rcases c with _ | _ | c <;> cases hc
  have first : Step 0 Traffic.start w₁ :=
    @Step.ask _ _ _ Unit spec t _ _ _ 0 (some .tree) rfl rfl rfl
  have second : Step 1 w₁ w₂ := @Step.ask _ _ _ Unit spec t _ _ _ 0 (some .tree) rfl rfl rfl
  have begins : Step 0 w₂ w₃ := @Step.begin _ _ _ Unit spec t 0 .tree _ rfl rfl rfl hquiet
  have ends : Step 0 w₃ w₄ := .finish rfl
  have gets : Step 1 w₄ w₅ := @Step.receive _ _ _ 0 0 .tree slot e rfl rfl rfl
  have gets' : Step 0 w₅ ((w₅.enter 0 .free).note (.received 0 0 e)) :=
    @Step.receive _ _ _ 0 0 .tree slot e rfl rfl rfl
  have h : Traffic.start.Runs w₄ :=
    (((Relation.ReflTransGen.single ⟨0, first⟩).tail ⟨1, second⟩).tail ⟨0, begins⟩).tail ⟨0, ends⟩
  have h' : w₄.Runs _ := (Relation.ReflTransGen.single ⟨1, gets⟩).tail ⟨0, gets'⟩
  obtain ⟨hslots, -, -, -, -⟩ := compiled_once h h'
  obtain ⟨hcounted, hsettled⟩ := hslots 0 0 slot rfl
  exact ⟨_, _, slot, h, h', rfl, rfl, hcounted, hsettled e rfl, rfl, rfl, rfl, rfl⟩

end Traffic

end Exemplar

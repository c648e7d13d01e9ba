import Exemplar.Proofs.Registry.Answers

namespace Exemplar

variable {β σ ρ : Type}

namespace Registry

end Registry

/-- A declaration does not see where an earlier panic was raised. -/
def Spec.Blind (spec : Spec β σ) : Prop :=
  ∀ (b : Builder β) {t t' : Thread σ}, t.Alike t' →
    Paired (Paired Thread.Alike) (spec.declare b t) (spec.declare b t')

/-- What happens on the thread in between does not depend on where an earlier panic was raised. -/
def Use.Blind : Use σ ρ → Prop
  | meanwhile f => ∀ {t t' : Thread σ}, t.Alike t' → (f t).Alike (f t')
  | _ => True

theorem Thread.Alike.emit {t t' : Thread σ} (h : t.Alike t') (e : Event) :
    (t.emit e).Alike (t'.emit e) := ⟨h.1, congrArg (·.push e) h.2⟩

theorem Thread.Alike.emitAll {t t' : Thread σ} (h : t.Alike t') (es : List Event) :
    (t.emitAll es).Alike (t'.emitAll es) := by
  induction es generalizing t t' with
  | nil => exact h
  | cons e es ih => exact ih (h.emit e)

namespace Registry

/-- The slots are the same, and the threads are one up to the place of the latest panic. -/
def Alike (x y : Registry β × Thread σ) : Prop := x.1.slots = y.1.slots ∧ x.2.Alike y.2

variable {r r' : Registry β} {t t' : Thread σ}

theorem slots_insert_congr (h : r.slots = r'.slots) (key : Nat) (slot : Slot β) :
    (r.insert key slot).slots = (r'.insert key slot).slots := by
  rw [insert, insert, held_eq, held_eq, h]

theorem slots_modify_congr (h : r.slots = r'.slots) (key : Nat) (f : Slot β → Slot β) :
    (r.modify key f).slots = (r'.modify key f).slots := by
  rw [modify, modify, h]

theorem rootFor_alike (spec : Spec β σ) (hr : r.slots = r'.slots) (ht : t.Alike t') :
    Paired Alike (r.rootFor spec t) (r'.rootFor spec t') := by
  simp only [rootFor, slot?_congr hr]
  cases r'.slot? spec.key with
  | some slot => exact ⟨rfl, hr, ht⟩
  | none =>
    cases spec.name with
    | error p => exact ⟨rfl, hr, ht⟩
    | ok name => exact ⟨rfl, slots_insert_congr hr _ _, ht.emit _⟩

theorem compile_alike {spec : Spec β σ} (hb : spec.Blind) (slot : Slot β) (ht : t.Alike t') :
    Paired (Paired Thread.Alike) (slot.compile spec t) (slot.compile spec t') := by
  simp only [Slot.compile]
  cases slot.compiled with
  | some outcome => exact ⟨rfl, rfl, ht⟩
  | none =>
    obtain ⟨o, x, y, hx, hy, hm⟩ := (hb .start (ht.emit (.compiling slot.name))).exists_eq
    obtain ⟨b', u, u', rfl, rfl, hu⟩ := hm.exists_eq
    simp only [Slot.build, hx, hy]
    exact ⟨rfl, rfl, hu.emit _⟩

theorem firstUse_alike {spec : Spec β σ} (hb : spec.Blind) (hr : r.slots = r'.slots)
    (ht : t.Alike t') : Paired Alike (r.firstUse spec t) (r'.firstUse spec t') := by
  obtain ⟨result, ⟨r₁, u⟩, ⟨r₁', u'⟩, hx, hy, hr₁, hu⟩ := (rootFor_alike spec hr ht).exists_eq
  rw [firstUse, firstUse, hx, hy]
  cases result with
  | error p => exact ⟨rfl, hr₁, hu⟩
  | ok slot =>
    obtain ⟨outcome, x, y, hx, hy, hm⟩ := (compile_alike hb slot hu).exists_eq
    obtain ⟨slot', v, v', rfl, rfl, hv⟩ := hm.exists_eq
    simp only [hx, hy]
    exact ⟨rfl, slots_modify_congr hr₁ _ _, hv⟩

theorem bridgeFor_alike {spec : Spec β σ} (hb : spec.Blind) (config : Config)
    (hr : r.slots = r'.slots) (ht : t.Alike t') :
    Paired Alike (r.bridgeFor spec config t) (r'.bridgeFor spec config t') := by
  obtain ⟨result, ⟨r₁, u⟩, ⟨r₁', u'⟩, hx, hy, hr₁, hu⟩ := (firstUse_alike hb hr ht).exists_eq
  rw [bridgeFor, bridgeFor, hx, hy]
  cases result with
  | error e => exact ⟨rfl, hr₁, hu⟩
  | ok tree =>
    cases spec.name with
    | error p => exact ⟨rfl, hr₁, hu⟩
    | ok name => exact ⟨rfl, slots_modify_congr hr₁ _ _, hu.emitAll _⟩

theorem runSpecWith_alike (exec : β → Action σ) (recorder : Recorder ρ) {spec : Spec β σ}
    (hb : spec.Blind) (config : Config) (hr : r.slots = r'.slots) (ht : t.Alike t') (host : ρ) :
    Paired (fun x y => x.1.slots = y.1.slots ∧ StagesPaired Thread.Alike x.2 y.2)
      (r.runSpecWith exec recorder spec config ⟨t, host⟩)
      (r'.runSpecWith exec recorder spec config ⟨t', host⟩) := by
  obtain ⟨result, ⟨r₁, u⟩, ⟨r₁', u'⟩, hx, hy, hr₁, hu⟩ := (bridgeFor_alike hb config hr ht).exists_eq
  rw [runSpecWith, runSpecWith, hx, hy]
  cases result with
  | error e => exact ⟨rfl, hr₁, hu, rfl⟩
  | ok bridge =>
    have hstages : StagesPaired Thread.Alike (⟨u, host⟩ : Stage σ ρ) ⟨u', host⟩ := ⟨hu, rfl⟩
    obtain ⟨a, v, v', hx, hy, hv⟩ :=
      ((alike_simulates exec).runAll bridge recorder hstages).exists_eq
    simp only [hx, hy]
    exact ⟨rfl, hr₁, hv⟩

theorem answer_alike (exec : β → Action σ) {specs : Catalogue β σ}
    (hb : ∀ key, (specs.spec key).Blind) {u : Use σ ρ} (hu : u.Blind) (hr : r.slots = r'.slots)
    (ht : t.Alike t') : Paired Alike (u.answer specs exec r t) (u.answer specs exec r' t') := by
  cases u with
  | root key =>
    obtain ⟨result, x, y, hx, hy, hm⟩ := (rootFor_alike (specs.spec key) hr ht).exists_eq
    simp only [Use.answer, hx, hy]
    exact ⟨rfl, hm⟩
  | tree key =>
    obtain ⟨result, x, y, hx, hy, hm⟩ := (firstUse_alike (hb key) hr ht).exists_eq
    simp only [Use.answer, hx, hy]
    exact ⟨rfl, hm⟩
  | bridge key config =>
    obtain ⟨result, x, y, hx, hy, hm⟩ := (bridgeFor_alike (hb key) config hr ht).exists_eq
    simp only [Use.answer, hx, hy]
    exact ⟨rfl, hm⟩
  | bridgeOver key name separator path =>
    obtain ⟨result, ⟨r₁, v⟩, ⟨r₁', v'⟩, hx, hy, hr₁, hv⟩ := (firstUse_alike (hb key) hr ht).exists_eq
    simp only [Use.answer, hx, hy]
    cases result with
    | error e => exact ⟨rfl, hr₁, hv⟩
    | ok whole =>
      simp only [bridgeOver]
      cases whole.at? path with
      | none => exact ⟨rfl, hr₁, hv⟩
      | some g => exact ⟨rfl, slots_modify_congr hr₁ _ _, hv.emitAll _⟩
  | run key config recorder host =>
    obtain ⟨result, ⟨r₁, v⟩, ⟨r₁', v'⟩, hx, hy, hr₁, hv⟩ :=
      (runSpecWith_alike exec recorder (hb key) config hr ht host).exists_eq
    simp only [Use.answer, hx, hy]
    exact ⟨congrArg (Answer.run result) hv.2, hr₁, hv.1⟩
  | meanwhile f => exact ⟨rfl, hr, hu ht⟩

/-- Neither a poisoned lock nor where an earlier panic was raised makes a difference to a history. -/
theorem answers_alike (exec : β → Action σ) (uses : List (Catalogue β σ × Use σ ρ))
    (hb : ∀ use ∈ uses, (∀ key, (use.1.spec key).Blind) ∧ use.2.Blind) (hr : r.slots = r'.slots)
    (ht : t.Alike t') : Paired Alike (r.answers exec uses t) (r'.answers exec uses t') := by
  induction uses generalizing r r' t t' with
  | nil => exact ⟨rfl, hr, ht⟩
  | cons use uses ih =>
    obtain ⟨hspecs, hu⟩ := hb use List.mem_cons_self
    obtain ⟨answer, ⟨r₁, v⟩, ⟨r₁', v'⟩, hx, hy, hr₁, hv⟩ :=
      (answer_alike exec hspecs hu hr ht).exists_eq
    obtain ⟨others, x, y, hx', hy', hm'⟩ :=
      (ih (fun use' huse' => hb use' (List.mem_cons_of_mem use huse')) hr₁ hv).exists_eq
    simp only [answers, hx, hy, hx', hy']
    exact ⟨rfl, hm'⟩

/-- A spec without a slot whose name panics is not used at all. The panic strikes under the lock. -/
structure Nameless (r : Registry β) (spec : Spec β σ) (p : Payload) : Prop where
  rootFor : ∀ t, r.rootFor spec t = (.error p, r.poison, t)
  firstUse : ∀ t, r.firstUse spec t = (.error (.panicked p), r.poison, t)
  bridgeFor : ∀ config t, r.bridgeFor spec config t = (.error (.panicked p), r.poison, t)
  runSpecWith : ∀ {ρ : Type} (exec : β → Action σ) (recorder : Recorder ρ) config (s : Stage σ ρ),
    r.runSpecWith exec recorder spec config s = (.error (.panicked p), r.poison, s)

theorem nameless {spec : Spec β σ} {p : Payload} (hs : r.slot? spec.key = none)
    (hn : spec.name = .error p) : r.Nameless spec p := by
  have hroot (t : Thread σ) : r.rootFor spec t = (.error p, r.poison, t) := by
    rw [Registry.rootFor, hs, hn]
  have hfirst (t : Thread σ) : r.firstUse spec t = (.error (.panicked p), r.poison, t) := by
    rw [Registry.firstUse, hroot]
  have hbridge (config : Config) (t : Thread σ) :
      r.bridgeFor spec config t = (.error (.panicked p), r.poison, t) := by
    rw [Registry.bridgeFor, hfirst]
  refine ⟨hroot, hfirst, hbridge, ?_⟩
  intro ρ exec recorder config s
  rw [Registry.runSpecWith, hbridge]

/-- After a panic under the lock whoever takes the lock gets an error, with the slots as they were.
All that is done with them is what would be done without the panic, on a thread that may still know where
the panic was raised. -/
structure Recovers (exec : β → Action σ) (r : Registry β) : Prop where
  lock_eq : r.poison.lock = .error r.slots
  slots_eq : r.poison.slots = r.slots
  size_eq : r.poison.size = r.size
  slot?_eq : ∀ key, r.poison.slot? key = r.slot? key
  answers : ∀ {ρ : Type} (later : List (Catalogue β σ × Use σ ρ)) {t t' : Thread σ}, t.Alike t' →
    (∀ use ∈ later, (∀ key, (use.1.spec key).Blind) ∧ use.2.Blind) →
      Paired Alike (r.answers exec later t) (r.poison.answers exec later t')

theorem recovers (exec : β → Action σ) (r : Registry β) : r.Recovers exec where
  lock_eq := rfl
  slots_eq := rfl
  size_eq := by rw [size, size, held_eq, held_eq, slots_poison]
  slot?_eq := r.slot?_poison
  answers := fun later _ _ ht hb => answers_alike exec later hb r.slots_poison.symm ht

end Registry

end Exemplar

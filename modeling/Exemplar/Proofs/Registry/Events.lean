import Exemplar.Proofs.Registry.Answers
import Exemplar.Proofs.Report.Events

namespace Exemplar

variable {β σ ρ : Type}

/-- The event is about the compilation of a spec. -/
def Event.isCompilation : Event → Bool
  | compiling _ | compiled _ _ | compilationFailed _ _ => true
  | _ => false

/-- What a subscriber was told of the compilation of a slot, by now. -/
def Slot.told (slot : Slot β) : List Event :=
  match slot.compiled with
  | none => []
  | some outcome => [.compiling slot.name, Slot.outcomeEvent slot.name outcome]

/-- What a subscriber was told of the compilation of the spec with a key: nothing, or that it was begun and
how it ended. -/
def Registry.told (r : Registry β) (key : Nat) : List Event :=
  match r.slot? key with
  | none => []
  | some slot => slot.told

/-- Declarations, hooks and bodies leave the events to the engine. -/
structure Catalogue.Silent (specs : Catalogue β σ) (exec : β → Action σ) : Prop where
  exec : Exemplar.Silent exec
  declare : ∀ key b t, ((specs.spec key).declare b t).2.2.trace = t.trace

namespace Use

/-- Failures of runs are collected, and what goes on meanwhile adds no events. -/
def Quiet : Use σ (List RecordedFailure) → Prop
  | run _ _ recorder _ => recorder = collecting
  | meanwhile f => ∀ t, (f t).trace = t.trace
  | _ => True

/-- The events that a use adds. -/
def events (specs : Catalogue β σ) (exec : β → Action σ) (u : Use σ ρ) (r : Registry β) (t : Thread σ) :
    List Event :=
  (u.perform specs exec r t).2.2.events.drop t.events.length

end Use

namespace Slot

theorem told_of_compiled {slot : Slot β} {outcome : Except SpecError (Group β)}
    (h : slot.compiled = some outcome) :
    slot.told = [.compiling slot.name, outcomeEvent slot.name outcome] := by
  rw [told, h]

theorem isCompilation_of_mem_told {slot : Slot β} {e : Event} (h : e ∈ slot.told) :
    e.isCompilation = true := by
  rw [told] at h
  split at h
  · cases h
  · next outcome _ =>
    rcases List.mem_pair.mp h with rfl | rfl
    · rfl
    · cases outcome <;> rfl

/-- Names in a tree make no difference to what is told of its compilation. -/
theorem told_mapTree {slot : Slot β} {f : Group β → Group β}
    (h : ∀ tree, slot.compiled = some (.ok tree) → (f tree).exampleCount = tree.exampleCount) :
    (slot.mapTree f).told = slot.told := by
  rw [mapTree]
  split
  · next tree hc =>
    rw [told_of_compiled rfl, told_of_compiled hc, outcomeEvent, outcomeEvent, h tree hc]
  · rfl

theorem name_mapTree (slot : Slot β) (f : Group β → Group β) : (slot.mapTree f).name = slot.name := by
  rw [mapTree]
  split <;> rfl

variable (slot : Slot β)

/-- Whoever asks for the outcome of a slot gets what the slot then holds. -/
theorem compile_slot (spec : Spec β σ) (t : Thread σ) :
    (slot.compile spec t).2.1.name = slot.name ∧
      (slot.compile spec t).2.1.compiled = some (slot.compile spec t).1 := by
  cases hc : slot.compiled with
  | some outcome =>
    rw [compile_of_some hc]
    exact ⟨rfl, hc⟩
  | none =>
    rw [compile_of_none hc]
    exact ⟨rfl, rfl⟩

section Silence

variable {spec : Spec β σ} (h : ∀ b t, (spec.declare b t).2.2.trace = t.trace)

include h

theorem build_events (t : Thread σ) :
    (slot.build spec t).2.2.events =
      t.events ++ [.compiling slot.name, outcomeEvent slot.name (slot.build spec t).1] := by
  have hdeclare := Thread.events_congr (h .start (t.emit (.compiling slot.name)))
  rw [Thread.events_emit] at hdeclare
  rw [build, Thread.events_emit, hdeclare, List.append_assoc]
  rfl

/-- Asking for the outcome of a slot adds to the events what it adds to that which was told. -/
theorem compile_events (t : Thread σ) :
    ∃ more, (slot.compile spec t).2.2.events = t.events ++ more ∧
      (slot.compile spec t).2.1.told = slot.told ++ more ∧
      more <:+ (slot.compile spec t).2.1.told := by
  cases hc : slot.compiled with
  | some outcome =>
    rw [compile_of_some hc]
    exact ⟨[], (List.append_nil _).symm, (List.append_nil _).symm, List.nil_suffix⟩
  | none =>
    have htold : slot.told = [] := by rw [told, hc]
    rw [compile_of_none hc, htold]
    exact ⟨_, slot.build_events h t, rfl, List.suffix_rfl⟩

end Silence

end Slot

namespace Registry

variable {r : Registry β} {key : Nat} {slot : Slot β}

theorem told_of_slot? (h : r.slot? key = some slot) : r.told key = slot.told := by rw [told, h]

theorem told_of_slot?_eq_none (h : r.slot? key = none) : r.told key = [] := by rw [told, h]

theorem told_congr {r' : Registry β} (h : r'.slot? key = r.slot? key) : r'.told key = r.told key := by
  rw [told, told, h]

/-- Either nothing was told of the compilation of a spec or all there is to tell. -/
theorem told_cases (r : Registry β) (key : Nat) :
    r.told key = [] ∨ ∃ slot outcome, r.slot? key = some slot ∧ r.outcome? key = some outcome ∧
      r.told key = [.compiling slot.name, Slot.outcomeEvent slot.name outcome] := by
  cases hs : r.slot? key with
  | none => exact .inl (told_of_slot?_eq_none hs)
  | some slot =>
    rw [told_of_slot? hs, outcome?, hs, Option.bind_some]
    cases hc : slot.compiled with
    | none => exact .inl (by rw [Slot.told, hc])
    | some outcome => exact .inr ⟨slot, outcome, rfl, rfl, Slot.told_of_compiled hc⟩

/-- Nothing is added to what is told of a compilation. -/
theorem told_eq_of_append {r' : Registry β} {more : List Event} (hne : r.told key ≠ [])
    (h : r'.told key = r.told key ++ more) : r'.told key = r.told key := by
  rcases r.told_cases key with hnil | ⟨slot, outcome, -, -, htold⟩
  · exact absurd hnil hne
  · rcases r'.told_cases key with hnil | ⟨slot', outcome', -, -, htold'⟩
    · rw [hnil] at h
      exact absurd (List.append_eq_nil_iff.mp h.symm).1 hne
    · have hlength := congrArg List.length h
      rw [htold, htold', List.length_append] at hlength
      simp only [List.length_cons, List.length_nil] at hlength
      have hmore : more = [] := List.length_eq_zero_iff.mp (by omega)
      rw [h, hmore, List.append_nil]

/-- Each slot bears the name of its spec. -/
def Named (specs : Catalogue β σ) (r : Registry β) : Prop :=
  ∀ key slot, r.slot? key = some slot → (specs.spec key).name = .ok slot.name

/-- Making a bridge gives names only. -/
theorem told_nameAt {tree : Group β} (h : r.outcome? key = some (.ok tree)) (path : List Nat)
    (other : Nat) : (r.nameAt key tree path).told other = r.told other := by
  by_cases hk : other = key
  · subst hk
    rw [nameAt]
    split
    · rfl
    · next g hg =>
      obtain ⟨slot, hs⟩ := slot?_isSome_of_outcome? h
      have hs' := slot?_modify_self r other (·.mapTree (·.updateAt path fun _ => g.named))
      rw [hs, Option.map_some] at hs'
      rw [told_of_slot? hs', told_of_slot? hs]
      apply Slot.told_mapTree
      intro tree' hc
      have hc' : slot.compiled = some (.ok tree) := by rwa [outcome?, hs] at h
      obtain rfl := Except.ok.inj (Option.some.inj (hc.symm.trans hc'))
      exact Group.exampleCount_congr (Group.unnamed_updateAt_named hg)
  · exact told_congr (slot?_nameAt_of_ne hk tree path)

theorem Named.nameAt {specs : Catalogue β σ} (h : r.Named specs) (key : Nat) (tree : Group β)
    (path : List Nat) : (r.nameAt key tree path).Named specs := by
  intro other slot hs
  rw [Registry.nameAt] at hs
  split at hs
  · exact h other slot hs
  · by_cases hk : other = key
    · subst hk
      rw [slot?_modify_self] at hs
      obtain ⟨slot', hs', rfl⟩ := Option.map_eq_some_iff.mp hs
      rw [Slot.name_mapTree]
      exact h other slot' hs'
    · rw [slot?_modify_of_ne hk] at hs
      exact h other slot hs

/-- What a use of a spec does to the events and to that which is told of compilations. -/
structure Adds (specs : Catalogue β σ) (used : Option Nat) (r r' : Registry β) (t t' : Thread σ)
    (es : List Event) : Prop where
  events : t'.events = t.events ++ es
  told : ∀ key, r'.told key = r.told key ++ if used = some key then es.filter Event.isCompilation else []
  named : r'.Named specs

section Uses

variable {specs : Catalogue β σ} {exec : β → Action σ} {t t' : Thread σ} {r' : Registry β}

namespace Adds

theorem nothing (hn : r.Named specs) (h : t'.events = t.events) (used : Option Nat) :
    Adds specs used r r t t' [] := by
  refine ⟨?_, fun key => ?_, hn⟩
  · rw [h, List.append_nil]
  · rw [List.filter_nil, ite_self, List.append_nil]

theorem poisoned (hn : r.Named specs) (used : Option Nat) : Adds specs used r r.poison t t [] := by
  refine ⟨(List.append_nil _).symm, fun key => ?_, fun key slot hs => ?_⟩
  · rw [told_congr (r.slot?_poison key), List.filter_nil, ite_self, List.append_nil]
  · rw [slot?_poison] at hs
    exact hn key slot hs

/-- Only the slot of the spec is touched. -/
theorem of_slot {key : Nat} {es : List Event} (hnamed : r.Named specs) (hs : r'.slot? key = some slot)
    (hn : (specs.spec key).name = .ok slot.name)
    (hothers : ∀ other, other ≠ key → r'.slot? other = r.slot? other)
    (hevents : t'.events = t.events ++ es)
    (htold : slot.told = r.told key ++ es.filter Event.isCompilation) :
    Adds specs (some key) r r' t t' es := by
  refine ⟨hevents, fun other => ?_, fun other slot' hs' => ?_⟩
  · by_cases hk : other = key
    · rw [hk, told_of_slot? hs, htold, if_pos rfl]
    · have hne : some key ≠ some other := by simpa using Ne.symm hk
      rw [told_congr (hothers other hk), if_neg hne, List.append_nil]
  · by_cases hk : other = key
    · rw [hk] at hs' ⊢
      obtain rfl := Option.some.inj (hs.symm.trans hs')
      exact hn
    · rw [hothers other hk] at hs'
      exact hnamed other slot' hs'

theorem drop_eq {used : Option Nat} {es : List Event} (h : Adds specs used r r' t t' es) :
    t'.events.drop t.events.length = es := by
  rw [h.events, List.drop_left]

theorem trans {used : Option Nat} {es more : List Event} {r'' : Registry β} {t'' : Thread σ}
    (h : Adds specs used r r' t t' es) (h' : Adds specs used r' r'' t' t'' more) :
    Adds specs used r r'' t t'' (es ++ more) := by
  refine ⟨?_, fun key => ?_, h'.named⟩
  · rw [h'.events, h.events, List.append_assoc]
  · rw [h'.told, h.told, List.append_assoc, List.filter_append]
    split
    · rfl
    · rfl

/-- Events that are not about compilations may follow, if compilations stay as they are. -/
theorem extend {used : Option Nat} {es more : List Event} {r'' : Registry β} {t'' : Thread σ}
    (h : Adds specs used r r' t t' es) (hevents : t''.events = t'.events ++ more)
    (hmore : more.filter Event.isCompilation = []) (htold : ∀ key, r''.told key = r'.told key)
    (hn : r''.Named specs) : Adds specs used r r'' t t'' (es ++ more) := by
  refine h.trans ⟨hevents, fun key => ?_, hn⟩
  rw [htold, hmore, ite_self, List.append_nil]

/-- A spec gets its slot. -/
theorem insert {key : Nat} {name : String} (hnamed : r.Named specs) (hs : r.slot? key = none)
    (hn : (specs.spec key).name = .ok name) :
    Adds specs (some key) r (r.insert key (.idle name)) t (t.emit (.registering name))
      [.registering name] := by
  refine of_slot hnamed (slot?_insert_self hs _) hn (fun other hk => slot?_insert_of_ne hk _)
    (Thread.events_emit ..) ?_
  rw [told_of_slot?_eq_none hs]
  rfl

/-- The slot is asked for its outcome and put back. -/
theorem compile {key : Nat} (hsilent : specs.Silent exec) (hnamed : r.Named specs)
    (hs : r.slot? key = some slot) (t : Thread σ) :
    let made := slot.compile (specs.spec key) t
    ∃ more, Adds specs (some key) r (r.modify key fun _ => made.2.1) t made.2.2 more ∧
      made.2.1.told = slot.told ++ more ∧ more <:+ made.2.1.told := by
  intro made
  obtain ⟨more, hevents, htold, hsuffix⟩ := slot.compile_events (hsilent.declare key) t
  obtain ⟨hname, -⟩ := slot.compile_slot (specs.spec key) t
  have hself : (r.modify key fun _ => made.2.1).slot? key = some made.2.1 := by
    rw [slot?_modify_self, hs, Option.map_some]
  have hmore : more.filter Event.isCompilation = more :=
    List.filter_eq_self.mpr fun e he => Slot.isCompilation_of_mem_told (hsuffix.subset he)
  refine ⟨more, of_slot hnamed hself ?_ (fun other hk => slot?_modify_of_ne hk _) hevents ?_, htold,
    hsuffix⟩
  · rw [hname]
    exact hnamed key slot hs
  · rw [htold, told_of_slot? hs, hmore]

end Adds

/-- What asking for the tree of a spec comes to. Nothing happens if the name of the spec panics. Else the
spec has an outcome, and the events that were added are those that tell of the registration and of the
compilation, as far as these were not done before. -/
inductive Opens (specs : Catalogue β σ) (key : Nat) (r : Registry β) (t : Thread σ) :
    Except Abort (Group β) × Registry β × Thread σ → Prop
  | nameless {p : Payload} (hn : (specs.spec key).name = .error p) :
    Opens specs key r t (.error (.panicked p), r.poison, t)
  | ended {r' : Registry β} {t' : Thread σ} {name : String} {outcome : Except SpecError (Group β)}
    {opening : List Event} (hn : (specs.spec key).name = .ok name)
    (hc : r'.outcome? key = some outcome)
    (htold : r'.told key = [.compiling name, Slot.outcomeEvent name outcome])
    (hadds : Adds specs (some key) r r' t t' opening)
    (hopening : opening <:+ .registering name :: r'.told key) :
    Opens specs key r t (outcome.mapError .failed, r', t')

/-- The slot of a spec, found or made, is compiled and put back. -/
theorem Adds.opens {key : Nat} {before : List Event} (h : Adds specs (some key) r r' t t' before)
    (hsilent : specs.Silent exec) (hs : r'.slot? key = some slot)
    (hbefore : before = [] ∨ before = [.registering slot.name] ∧ slot.told = []) :
    Opens specs key r t ((slot.compile (specs.spec key) t').1.mapError .failed,
      r'.modify key fun _ => (slot.compile (specs.spec key) t').2.1,
      (slot.compile (specs.spec key) t').2.2) := by
  obtain ⟨more, hadds, hmore, hsuffix⟩ := compile hsilent h.named hs t'
  obtain ⟨hname, hcompiled⟩ := slot.compile_slot (specs.spec key) t'
  generalize slot.compile (specs.spec key) t' = made at *
  obtain ⟨outcome, slot', t''⟩ := made
  have hself : (r'.modify key fun _ => slot').slot? key = some slot' := by
    rw [slot?_modify_self, hs, Option.map_some]
  have htold : (r'.modify key fun _ => slot').told key = slot'.told := told_of_slot? hself
  refine .ended (h.named key slot hs) ?_ ?_ (h.trans hadds) ?_
  · rw [outcome?, hself, Option.bind_some, hcompiled]
  · rw [htold, Slot.told_of_compiled hcompiled, hname]
  · rw [htold]
    rcases hbefore with rfl | ⟨rfl, hnew⟩
    · exact hsuffix.trans (List.suffix_cons ..)
    · rw [hmore, hnew]
      exact List.suffix_rfl

theorem opens_firstUse (hsilent : specs.Silent exec) (hnamed : r.Named specs) (key : Nat)
    (t : Thread σ) : Opens specs key r t (r.firstUse (specs.spec key) t) := by
  rcases rootFor_cases (specs.spec key) r t with ⟨p, -, hn, h⟩ | ⟨slot, hs, h⟩ | ⟨name, hs, hn, h⟩
  · rw [firstUse, h]
    exact .nameless hn
  · rw [specs.key_spec] at hs
    rw [firstUse, h, specs.key_spec]
    exact (Adds.nothing hnamed rfl (some key)).opens hsilent hs (.inl rfl)
  · rw [specs.key_spec] at hs
    rw [firstUse, h, specs.key_spec]
    exact (Adds.insert hnamed hs hn).opens hsilent (slot?_insert_self hs _) (.inr ⟨rfl, rfl⟩)

theorem filter_creationEvents (b : Bridge β) : b.creationEvents.filter Event.isCompilation = [] := by
  rw [Bridge.creationEvents, List.filter_append, List.filter_map]
  simp only [Function.comp_def, Event.isCompilation, List.filter_false, List.map_nil]
  rfl

theorem filter_events (s : Summary) : s.events.filter Event.isCompilation = [] := by
  rw [List.filter_eq_nil_iff]
  intro e he
  simp only [Summary.events, List.mem_append, List.mem_singleton, List.mem_flatMap] at he
  rcases he with ((he | rfl) | ⟨report, -, he⟩) | rfl
  · obtain ⟨i, hi, rfl⟩ := List.mem_mapIdx.mp he
    exact Bool.false_ne_true
  · exact Bool.false_ne_true
  · rw [ExampleReport.events] at he
    split at he
    · rcases List.mem_pair.mp he with rfl | rfl <;> exact Bool.false_ne_true
    · rcases List.mem_cons.mp he with rfl | he
      · exact Bool.false_ne_true
      · obtain ⟨f, -, he⟩ := List.mem_flatMap.mp he
        rcases List.mem_pair.mp he with rfl | rfl <;> exact Bool.false_ne_true
    · obtain rfl := List.mem_singleton.mp he
      exact Bool.false_ne_true
  · exact Bool.false_ne_true

/-- A run and its events agree. What there is to tell of the compilation of the spec is `told`, and what
became of the bridge of the run is `made`. -/
inductive Tells (named : Except Payload String) (told : List Event) (made : Except Abort (Bridge β)) :
    Except Abort Summary → List Event → Prop
  /-- A spec whose name panics leaves no events. -/
  | nameless {p : Payload} (hn : named = .error p) (hmade : made = .error (.panicked p)) :
    Tells named told made (.error (.panicked p)) []
  /-- Of a spec that cannot be compiled nothing more is told. -/
  | failed {name : String} {e : SpecError} {opening : List Event} (hn : named = .ok name)
    (hmade : made = .error (.failed e))
    (htold : told = [.compiling name, .compilationFailed name e])
    (hopening : opening <:+ .registering name :: told) :
    Tells named told made (.error (.failed e)) opening
  /-- Else there follow the events of the summary, which counts the examples that were compiled. -/
  | ran {name : String} {bridge : Bridge β} {summary : Summary} {opening : List Event}
    (hn : named = .ok name) (hmade : made = .ok bridge)
    (htold : told = [.compiling name, .compiled name summary.reports.length])
    (hopening : opening <:+ .registering name :: told) (hspec : summary.spec = name)
    (hinvocations : bridge.invocations =
      summary.reports.mapIdx fun i report => ⟨report.invocation, name, i⟩)
    (hheard : summary.events.map (fun e => (e.level, e.message)) = summary.heard) :
    Tells named told made (.ok summary) (opening ++ summary.events)

/-- What there is to tell of a compilation does not change later. -/
theorem Tells.settled {named : Except Payload String} {told told' : List Event}
    {made : Except Abort (Bridge β)} {result : Except Abort Summary} {es : List Event}
    (h : Tells named told made result es) (hsame : told ≠ [] → told' = told) :
    Tells named told' made result es := by
  cases h with
  | nameless hn hmade => exact .nameless hn hmade
  | failed hn hmade htold hopening =>
    rw [hsame (by rw [htold]; nofun)]
    exact .failed hn hmade htold hopening
  | ran hn hmade htold hopening hspec hinvocations hheard =>
    rw [hsame (by rw [htold]; nofun)]
    exact .ran hn hmade htold hopening hspec hinvocations hheard

theorem bridgeFor_of_error {spec : Spec β σ} {e : Abort} (config : Config)
    (h : r.firstUse spec t = (.error e, r', t')) : r.bridgeFor spec config t = (.error e, r', t') := by
  rw [bridgeFor, h]

theorem bridgeFor_of_tree {spec : Spec β σ} {tree : Group β} {name : String} (config : Config)
    (h : r.firstUse spec t = (.ok tree, r', t')) (hn : spec.name = .ok name) :
    r.bridgeFor spec config t = (.ok (Bridge.ofGroup name config.nameSeparator tree).1,
      r'.nameAt spec.key tree [],
      t'.emitAll (Bridge.ofGroup name config.nameSeparator tree).1.creationEvents) := by
  rw [bridgeFor, h, hn]
  rfl

theorem Opens.adds {key : Nat} {x : Except Abort (Group β) × Registry β × Thread σ}
    (h : Opens specs key r t x) (hnamed : r.Named specs) :
    ∃ es, Adds specs (some key) r x.2.1 t x.2.2 es := by
  cases h with
  | nameless => exact ⟨[], .poisoned hnamed _⟩
  | ended _ _ _ hadds _ => exact ⟨_, hadds⟩

theorem adds_bridgeFor (hsilent : specs.Silent exec) (hnamed : r.Named specs) (key : Nat)
    (config : Config) (t : Thread σ) :
    ∃ es, Adds specs (some key) r (r.bridgeFor (specs.spec key) config t).2.1 t
      (r.bridgeFor (specs.spec key) config t).2.2 es := by
  have hopens := opens_firstUse hsilent hnamed key t
  rcases hfirst : r.firstUse (specs.spec key) t with ⟨result, r', t'⟩
  rw [hfirst] at hopens
  cases hopens with
  | nameless =>
    rw [bridgeFor_of_error config hfirst]
    exact ⟨[], .poisoned hnamed _⟩
  | @ended _ _ name outcome opening hn hc htold hadds hopening =>
    rcases outcome with e | tree
    · rw [bridgeFor_of_error config hfirst]
      exact ⟨opening, hadds⟩
    · rw [bridgeFor_of_tree config hfirst hn, specs.key_spec]
      exact ⟨_, hadds.extend (Thread.events_emitAll ..) (filter_creationEvents _) (told_nameAt hc [])
        (hadds.named.nameAt key tree [])⟩

/-- A run tells of the compilation if it is the first to use the spec, and then what its summary says. -/
theorem tells_runSpecWith (hsilent : specs.Silent exec) (hnamed : r.Named specs) (key : Nat)
    (config : Config) (t : Thread σ) (host : List RecordedFailure) :
    let ran := r.runSpecWith exec collecting (specs.spec key) config ⟨t, host⟩
    ∃ es, Adds specs (some key) r ran.2.1 t ran.2.2.thread es ∧
      Tells (specs.spec key).name (ran.2.1.told key) (r.bridgeFor (specs.spec key) config t).1 ran.1 es := by
  intro ran
  have hopens := opens_firstUse hsilent hnamed key t
  rcases hfirst : r.firstUse (specs.spec key) t with ⟨result, r', t'⟩
  rw [hfirst] at hopens
  cases hopens with
  | @nameless p hn =>
    have hbridge := bridgeFor_of_error config hfirst
    have hran : ran = (.error (.panicked p), r.poison, ⟨t, host⟩) := by
      simp only [ran, runSpecWith, hbridge]
    rw [hran, hbridge]
    exact ⟨[], .poisoned hnamed _, .nameless hn rfl⟩
  | @ended _ _ name outcome opening hn hc htold hadds hopening =>
    rcases outcome with e | tree
    · have hbridge := bridgeFor_of_error config hfirst
      have hran : ran = (.error (.failed e), r', ⟨t', host⟩) := by
        simp only [ran, runSpecWith, hbridge]
      rw [hran, hbridge]
      exact ⟨opening, hadds, .failed hn rfl htold hopening⟩
    · have hbridge := bridgeFor_of_tree config hfirst hn
      obtain ⟨summary, hok, hspec, hevents, hinvocations, hlength, hconsistent⟩ :=
        Bridge.runAll_collecting hsilent.exec name config.nameSeparator tree t' host
      let bridge := (Bridge.ofGroup name config.nameSeparator tree).1
      rcases hall : bridge.runAll exec collecting ⟨t'.emitAll bridge.creationEvents, host⟩ with
        ⟨result, s'⟩
      rw [hall] at hok hevents
      obtain rfl : result = .ok summary := hok
      have hran : ran = (.ok summary, r'.nameAt (specs.spec key).key tree [], s') := by
        simp only [ran, runSpecWith, hbridge, bridge, hall]
        rfl
      have hsame := told_nameAt hc []
      rw [hran, hbridge, specs.key_spec]
      refine ⟨opening ++ summary.events, ?_, ?_⟩
      · exact hadds.extend hevents (filter_events summary) hsame (hadds.named.nameAt key tree [])
      · rw [hsame]
        rw [Slot.outcomeEvent, ← hlength] at htold
        exact .ran hn rfl htold hopening hspec hinvocations (Summary.heard_eq hconsistent)

theorem adds_perform (hsilent : specs.Silent exec) (hnamed : r.Named specs)
    {u : Use σ (List RecordedFailure)} (hq : u.Quiet) (t : Thread σ) :
    ∃ es, Adds specs u.key? r (u.perform specs exec r t).2.1 t (u.perform specs exec r t).2.2 es := by
  cases u with
  | root key =>
    rcases rootFor_cases (specs.spec key) r t with ⟨p, -, -, h⟩ | ⟨slot, -, h⟩ | ⟨name, hs, hn, h⟩
    · simp only [Use.perform, h]
      exact ⟨[], .poisoned hnamed _⟩
    · simp only [Use.perform, h]
      exact ⟨[], .nothing hnamed rfl _⟩
    · simp only [Use.perform, h, specs.key_spec]
      rw [specs.key_spec] at hs
      exact ⟨_, .insert hnamed hs hn⟩
  | tree key => exact (opens_firstUse hsilent hnamed key t).adds hnamed
  | bridge key config => exact adds_bridgeFor hsilent hnamed key config t
  | bridgeOver key name separator path =>
    have hopens := opens_firstUse hsilent hnamed key t
    rcases hfirst : r.firstUse (specs.spec key) t with ⟨result, r', t'⟩
    rw [hfirst] at hopens
    cases hopens with
    | nameless =>
      simp only [Use.perform, hfirst]
      exact ⟨[], .poisoned hnamed _⟩
    | @ended _ _ name' outcome opening hn hc htold hadds hopening =>
      rcases outcome with e | whole
      · have hfailed : r.firstUse (specs.spec key) t = (.error (.failed e), r', t') := hfirst
        simp only [Use.perform, hfailed]
        exact ⟨opening, hadds⟩
      · have hwhole : r.firstUse (specs.spec key) t = (.ok whole, r', t') := hfirst
        cases hg : whole.at? path with
        | none =>
          simp only [Use.perform, hwhole, bridgeOver, hg]
          exact ⟨opening, hadds⟩
        | some g =>
          have hat : r'.nameAt key whole path =
              r'.modify key (·.mapTree (·.updateAt path fun _ => g.named)) := by rw [nameAt, hg]
          have htold' := told_nameAt hc path
          have hnamed' := hadds.named.nameAt key whole path
          rw [hat] at htold' hnamed'
          simp only [Use.perform, hwhole, bridgeOver, hg]
          exact ⟨_, hadds.extend (Thread.events_emitAll ..) (filter_creationEvents _) htold' hnamed'⟩
  | run key config recorder host =>
    obtain rfl : recorder = collecting := hq
    obtain ⟨es, hadds, -⟩ := tells_runSpecWith hsilent hnamed key config t host
    exact ⟨es, hadds⟩
  | meanwhile f => exact ⟨[], .nothing hnamed (Thread.events_congr (hq t)) _⟩

end Uses

/-- The events that uses in turn add, with the spec that each of them uses. -/
def story (specs : Catalogue β σ) (exec : β → Action σ) :
    List (Use σ ρ) → Registry β → Thread σ → List (Option Nat × List Event)
  | [], _, _ => []
  | u :: uses, r, t =>
    let (_, r', t') := u.perform specs exec r t
    (u.key?, u.events specs exec r t) :: story specs exec uses r' t'

theorem getElem?_story (specs : Catalogue β σ) (exec : β → Action σ) {uses : List (Use σ ρ)} {i : Nat}
    {u : Use σ ρ} (h : uses[i]? = some u) (r : Registry β) (t : Thread σ) :
    let before := (serve specs exec (uses.take i) r t).2
    (story specs exec uses r t)[i]? = some (u.key?, u.events specs exec before.1 before.2) := by
  induction uses generalizing i r t with
  | nil => cases h
  | cons v uses ih =>
    cases i with
    | zero =>
      obtain rfl : v = u := Option.some.inj h
      rfl
    | succ i => exact ih h (v.perform specs exec r t).2.1 (v.perform specs exec r t).2.2

/-- The events about compilations that uses of a spec have added. -/
def compilationsOf (key : Nat) (story : List (Option Nat × List Event)) : List Event :=
  story.flatMap fun entry => if entry.1 = some key then entry.2.filter Event.isCompilation else []

section History

variable {specs : Catalogue β σ} {exec : β → Action σ} {uses : List (Use σ (List RecordedFailure))}

theorem adds_events (hsilent : specs.Silent exec) {r : Registry β} (hnamed : r.Named specs)
    {u : Use σ (List RecordedFailure)} (hq : u.Quiet) (t : Thread σ) :
    Adds specs u.key? r (u.perform specs exec r t).2.1 t (u.perform specs exec r t).2.2
      (u.events specs exec r t) := by
  obtain ⟨es, h⟩ := adds_perform hsilent hnamed hq t
  have hes : u.events specs exec r t = es := h.drop_eq
  rwa [hes]

/-- What uses in turn add is added in turn. -/
theorem story_adds (hsilent : specs.Silent exec) (hq : ∀ u ∈ uses, u.Quiet) {r : Registry β}
    (hnamed : r.Named specs) (t : Thread σ) :
    let final := (serve specs exec uses r t).2
    let story := story specs exec uses r t
    final.2.events = t.events ++ story.flatMap Prod.snd ∧
      (∀ key, final.1.told key = r.told key ++ compilationsOf key story) ∧ final.1.Named specs := by
  induction uses generalizing r t with
  | nil => exact ⟨(List.append_nil _).symm, fun _ => (List.append_nil _).symm, hnamed⟩
  | cons u uses ih =>
    obtain ⟨hu, hrest⟩ := List.forall_mem_cons.mp hq
    have hadds := adds_events hsilent hnamed hu t
    obtain ⟨hevents, htold, hfinal⟩ :=
      ih hrest hadds.named (u.perform specs exec r t).2.2
    refine ⟨?_, fun key => ?_, hfinal⟩
    · rw [hadds.events, List.append_assoc] at hevents
      exact hevents
    · have hkey := htold key
      rw [hadds.told, List.append_assoc] at hkey
      exact hkey

/-- What was told of a compilation by some time is all that will be told of it. -/
theorem told_serve (hsilent : specs.Silent exec) (hq : ∀ u ∈ uses, u.Quiet) {r : Registry β}
    (hnamed : r.Named specs) (t : Thread σ) {key : Nat} (hne : r.told key ≠ []) :
    (serve specs exec uses r t).2.1.told key = r.told key := by
  obtain ⟨-, htold, -⟩ := story_adds hsilent hq hnamed t
  exact told_eq_of_append hne (htold key)

/-- The events of a history agree with its results. Of each spec the events of one compilation are found at
most, and each run of the spec adds what its result says and nothing else. -/
theorem tells_serve (hsilent : specs.Silent exec) (hq : ∀ u ∈ uses, u.Quiet) (t : Thread σ) :
    let final := (serve specs exec uses .empty t).2
    let story := story specs exec uses .empty t
    final.2.events = t.events ++ story.flatMap Prod.snd ∧
      (∀ key, compilationsOf key story = [] ∨ ∃ name outcome, (specs.spec key).name = .ok name ∧
        final.1.outcome? key = some outcome ∧
        compilationsOf key story = [.compiling name, Slot.outcomeEvent name outcome]) ∧
      ∀ i key config host, uses[i]? = some (.run key config collecting host) →
        let before := (serve specs exec (uses.take i) .empty t).2
        ∃ es, story[i]? = some (some key, es) ∧
          Tells (specs.spec key).name (compilationsOf key story)
            (before.1.bridgeFor (specs.spec key) config before.2).1
            (before.1.runSpecWith exec collecting (specs.spec key) config ⟨before.2, host⟩).1 es := by
  intro final story
  have hempty : (Registry.empty : Registry β).Named specs := by
    intro key slot hs
    cases hs
  obtain ⟨hevents, htold, hnamed⟩ := story_adds hsilent hq hempty t
  have hcompilations (key : Nat) : compilationsOf key story = final.1.told key :=
    ((htold key).trans (List.nil_append _)).symm
  refine ⟨hevents, fun key => ?_, ?_⟩
  · rw [hcompilations]
    rcases final.1.told_cases key with hnil | ⟨slot, outcome, hs, hc, htold⟩
    · exact .inl hnil
    · exact .inr ⟨slot.name, outcome, hnamed key slot hs, hc, htold⟩
  · intro i key config host hi before
    have hfirst : ∀ u ∈ uses.take i, u.Quiet := fun u hu => hq u (List.mem_of_mem_take hu)
    have hlater : ∀ u ∈ uses.drop (i + 1), u.Quiet := fun u hu => hq u (List.mem_of_mem_drop hu)
    obtain ⟨-, -, hbefore⟩ := story_adds hsilent hfirst hempty t
    have hstory := getElem?_story specs exec hi .empty t
    obtain ⟨r₁, t₁, b, r₂, t₂, htake, hperform, -, hrest⟩ := serve_split specs exec hi .empty t
    have heq : before = (r₁, t₁) := htake
    clear_value before
    subst heq
    simp only [htake] at hbefore hstory
    obtain ⟨es, hadds, htells⟩ := tells_runSpecWith hsilent hbefore key config t₁ host
    have hran : (r₁.runSpecWith exec collecting (specs.spec key) config ⟨t₁, host⟩).2.1 = r₂ :=
      congrArg (fun served => served.2.1) hperform
    have hes : Use.events specs exec (.run key config collecting host) r₁ t₁ = es := hadds.drop_eq
    rw [hran] at hadds htells
    refine ⟨es, hes ▸ hstory, ?_⟩
    rw [hcompilations]
    refine htells.settled fun hne => ?_
    have hfinal : final.1.told key = (serve specs exec (uses.drop (i + 1)) r₂ t₂).2.1.told key :=
      congrArg (fun served => served.1.told key) hrest
    rw [hfinal, told_serve hsilent hlater hadds.named t₂ hne]

end History

set_option maxRecDepth 2000 in
/-- The body succeeds when it is called first and panics when it is called again. The second run compiles
nothing, and its events are those of a failed and of a pending example. -/
theorem tells_serve_second_run :
    let p : Program Unit Unit := .leaf "a" ⟨"spec", 1⟩ (some ()) (.leaf "b" ⟨"spec", 2⟩ none .done)
    let exec : Unit → Action Nat := fun _ t =>
      (if t.user = 0 then .returned (.ok ()) else .panicked (.text "boom"),
        { t with user := t.user + 1 })
    let specs : Catalogue Unit Nat := .ofProgram "s" p
    let uses : List (Use Nat (List RecordedFailure)) :=
      [.run 0 .default collecting [], .run 0 .default collecting []]
    let story := story specs exec uses .empty (.fresh 0)
    compilationsOf 0 story = [.compiling "s", .compiled "s" 2] ∧
      story[1]? = some (some 0, [.invocationGenerated "s" "a" 0, .invocationGenerated "s" "b" 1,
        .invocationsReady "s" 2, .exampleRunning "s" "a", .exampleFailed "s" "a" ⟨"spec", 1⟩ "boom",
        .failureRecorded ⟨"spec", 1⟩ false, .examplePending "s" "b", .runFinished "s" 0 1 1]) := by
  intro p exec specs uses story
  have hsilent : specs.Silent exec := ⟨fun _ _ => rfl, fun _ _ _ => rfl⟩
  have hq : ∀ u ∈ uses, u.Quiet := by
    intro u hu
    rcases List.mem_pair.mp hu with rfl | rfl <;> rfl
  obtain ⟨-, -, hruns⟩ := tells_serve hsilent hq (.fresh 0)
  obtain ⟨es, -, htells⟩ := hruns 1 0 .default [] rfl
  let summary : Summary := ⟨"s", [⟨"s: a", "a", .failed, some ⟨"boom", "spec", 1, false⟩⟩,
    ⟨"s: b", "b", .pending, none⟩], 0, 1, 1⟩
  have hresult : ((serve specs exec (uses.take 1) .empty (.fresh 0)).2.1.runSpecWith exec collecting
      (specs.spec 0) .default ⟨(serve specs exec (uses.take 1) .empty (.fresh 0)).2.2, []⟩).1 =
      .ok summary := rfl
  rw [hresult] at htells
  refine ⟨?_, rfl⟩
  cases htells with
  | ran hn _ htold =>
    cases hn
    exact htold

end Registry

end Exemplar

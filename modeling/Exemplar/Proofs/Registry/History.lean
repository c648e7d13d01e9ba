import Exemplar.Declaration.Program
import Exemplar.Proofs.Registry.Change

namespace Exemplar

variable {β σ ρ : Type}

/-- The specs of a program, each under its own key. -/
structure Catalogue (β σ : Type) where
  spec : Nat → Spec β σ
  key_spec : ∀ key, (spec key).key = key

/-- All keys stand for specs with this name and declaration. -/
def Catalogue.ofProgram (name : String) (p : Program β Unit) : Catalogue β σ where
  spec key := ⟨key, .ok name, p.run fun _ _ t => t, fun _ t => p.run_grows _ .same t⟩
  key_spec _ := rfl

/-- What a host asks of a registry, for the spec with a key. -/
inductive Use (σ ρ : Type) where
  | root (key : Nat)
  | tree (key : Nat)
  | bridge (key : Nat) (config : Config)
  /-- A bridge over the group at a path of the tree. -/
  | bridgeOver (key : Nat) (name separator : String) (path : List Nat)
  | run (key : Nat) (config : Config) (recorder : Recorder ρ) (host : ρ)
  /-- Nothing of the registry: the thread goes on, for one with the invocations of a bridge. -/
  | meanwhile (f : Thread σ → Thread σ)

namespace Use

/-- The group of a spec's tree over which a use makes a bridge. -/
def pathOf (key : Nat) : Use σ ρ → Option (List Nat)
  | bridge k _ => if k = key then some [] else none
  | bridgeOver k _ _ path => if k = key then some path else none
  | run k _ _ _ => if k = key then some [] else none
  | _ => none

/-- The use makes no bridge over a proper subgroup of the spec. -/
def IsWhole (key : Nat) (u : Use σ ρ) : Prop := ∀ path, u.pathOf key = some path → path = []

/-- The bridge that the host gets, if it gets one, and the registry and the thread afterwards. -/
def perform (specs : Catalogue β σ) (exec : β → Action σ) :
    Use σ ρ → Registry β → Thread σ → Option (Bridge β) × Registry β × Thread σ
  | root key, r, t =>
    let (_, r, t) := r.rootFor (specs.spec key) t
    (none, r, t)
  | tree key, r, t =>
    let (_, r, t) := r.firstUse (specs.spec key) t
    (none, r, t)
  | bridge key config, r, t =>
    let (result, r, t) := r.bridgeFor (specs.spec key) config t
    (result.toOption, r, t)
  | bridgeOver key name separator path, r, t =>
    match r.firstUse (specs.spec key) t with
    | (.error _, r, t) => (none, r, t)
    | (.ok whole, r, t) =>
      match r.bridgeOver key name separator whole path t with
      | some (made, r, t) => (some made, r, t)
      | none => (none, r, t)
  | run key config recorder host, r, t =>
    let (_, r, s) := r.runSpecWith exec recorder (specs.spec key) config ⟨t, host⟩
    (none, r, s.thread)
  | meanwhile f, r, t => (none, r, f t)

/-- The paths of the bridges over a spec that uses make, in order. -/
def pathsOf (key : Nat) (uses : List (Use σ ρ)) : List (List Nat) := uses.filterMap (pathOf key)

theorem pathsOf_append (key : Nat) (uses more : List (Use σ ρ)) :
    pathsOf key (uses ++ more) = pathsOf key uses ++ pathsOf key more :=
  List.filterMap_append

theorem pathsOf_take_succ {key i : Nat} {uses : List (Use σ ρ)} {u : Use σ ρ} {path : List Nat}
    (hi : uses[i]? = some u) (hp : u.pathOf key = some path) :
    pathsOf key (uses.take (i + 1)) = pathsOf key (uses.take i) ++ [path] := by
  rw [List.take_add_one, hi, pathsOf_append]
  simp only [pathsOf, Option.toList_some, List.filterMap_cons, hp, List.filterMap_nil]

theorem pathsOf_whole {key : Nat} {uses : List (Use σ ρ)} (h : ∀ u ∈ uses, u.IsWhole key) :
    ∀ path ∈ pathsOf key uses, path = [] := by
  intro path hp
  obtain ⟨u, hu, hpath⟩ := List.mem_filterMap.mp hp
  exact h u hu path hpath

end Use

/-- What the host gets from uses in turn, and the registry and the thread afterwards. -/
def Registry.serve (specs : Catalogue β σ) (exec : β → Action σ) :
    List (Use σ ρ) → Registry β → Thread σ → List (Option (Bridge β)) × Registry β × Thread σ
  | [], r, t => ([], r, t)
  | u :: uses, r, t =>
    let (answer, r, t) := u.perform specs exec r t
    let (answers, r, t) := serve specs exec uses r t
    (answer :: answers, r, t)

namespace Registry

/-- A bridge over a whole spec is not made if the name panics or the declaration did, and else it is
made over the tree that the first use gives. -/
theorem bridgeFor_cases (spec : Spec β σ) (config : Config) (r : Registry β) (t : Thread σ) :
    (∃ p, r.slot? spec.key = none ∧ spec.name = .error p ∧
      r.bridgeFor spec config t = (.error (.panicked p), r.poison, t)) ∨
    (∃ e r' t', Used spec r r' (.error e) ∧ r.bridgeFor spec config t = (.error (.failed e), r', t')) ∨
    ∃ tree r' t', Used spec r r' (.ok tree) ∧
      ((∃ p, spec.name = .error p ∧ r.bridgeFor spec config t = (.error (.panicked p), r', t')) ∨
      ∃ name, spec.name = .ok name ∧ r.bridgeFor spec config t =
        (.ok (Bridge.ofGroup name config.nameSeparator tree).1, r'.nameAt spec.key tree [],
          t'.emitAll (Bridge.ofGroup name config.nameSeparator tree).1.creationEvents)) := by
  rcases firstUse_cases spec r t with ⟨p, hs, hn, h⟩ | ⟨outcome, r', t', hu, h⟩
  · exact .inl ⟨p, hs, hn, by rw [bridgeFor, h]⟩
  · cases outcome with
    | error e =>
      refine .inr (.inl ⟨e, r', t', hu, ?_⟩)
      rw [bridgeFor, h]
      rfl
    | ok tree =>
      refine .inr (.inr ⟨tree, r', t', hu, ?_⟩)
      have h' : r.firstUse spec t = (.ok tree, r', t') := h
      cases hn : spec.name with
      | error p => exact .inl ⟨p, rfl, by rw [bridgeFor, h', hn]⟩
      | ok name => exact .inr ⟨name, rfl, by rw [bridgeFor, h', hn]; rfl⟩

theorem bridgeFor_change (spec : Spec β σ) (config : Config) (r : Registry β) (t : Thread σ) :
    Change spec (some []) r (r.bridgeFor spec config t).2.1 := by
  rcases bridgeFor_cases spec config r t with
    ⟨p, hs, hn, h⟩ | ⟨e, r', t', hu, h⟩ | ⟨tree, r', t', hu, ⟨p, hn, h⟩ | ⟨name, hn, h⟩⟩
  · rw [h]
    exact .nameless _ hs hn
  · rw [h]
    exact .failed _ hu
  · rw [h]
    exact .renamed _ hu hn
  · rw [h]
    exact .named [] hu

theorem runSpecWith_registry (exec : β → Action σ) (recorder : Recorder ρ) (spec : Spec β σ)
    (config : Config) (r : Registry β) (s : Stage σ ρ) :
    (r.runSpecWith exec recorder spec config s).2.1 = (r.bridgeFor spec config s.thread).2.1 := by
  rw [runSpecWith]
  split
  · next h => rw [h]
  · next h => rw [h]

end Registry

/-- A bridge over a group is made over the group of the tree that the first use gives, if it has one. -/
theorem Use.perform_bridgeOver (specs : Catalogue β σ) (exec : β → Action σ) (key : Nat)
    (name separator : String) (path : List Nat) (r : Registry β) (t : Thread σ) :
    (∃ p, r.slot? (specs.spec key).key = none ∧ (specs.spec key).name = .error p ∧
      (bridgeOver key name separator path : Use σ ρ).perform specs exec r t = (none, r.poison, t)) ∨
    (∃ e r' t', Registry.Used (specs.spec key) r r' (.error e) ∧
      (bridgeOver key name separator path : Use σ ρ).perform specs exec r t = (none, r', t')) ∨
    ∃ whole r' t', Registry.Used (specs.spec key) r r' (.ok whole) ∧
      (bridgeOver key name separator path : Use σ ρ).perform specs exec r t =
        ((whole.at? path).map fun sub => (Bridge.ofGroup name separator sub).1,
          r'.nameAt key whole path, t') := by
  rcases Registry.firstUse_cases (specs.spec key) r t with ⟨p, hs, hn, h⟩ | ⟨outcome, r', t', hu, h⟩
  · refine .inl ⟨p, hs, hn, ?_⟩
    simp only [perform, h]
  · cases outcome with
    | error e =>
      have hfirst : r.firstUse (specs.spec key) t = (.error (.failed e), r', t') := h
      refine .inr (.inl ⟨e, r', t', hu, ?_⟩)
      simp only [perform, hfirst]
    | ok whole =>
      have hfirst : r.firstUse (specs.spec key) t = (.ok whole, r', t') := h
      cases hg : whole.at? path with
      | none =>
        refine .inr (.inr ⟨whole, r', t', hu, ?_⟩)
        simp only [perform, hfirst, Registry.bridgeOver, Registry.nameAt, hg,
          Option.map_none]
      | some g =>
        refine .inr (.inr ⟨whole, r',
          t'.emitAll (Bridge.ofGroup name separator g).1.creationEvents, hu, ?_⟩)
        simp only [perform, hfirst, Registry.bridgeOver, Registry.nameAt, hg,
          Option.map_some]
        rfl

/-- A use changes the registry as a use of one spec does, and makes no bridge over any other spec. -/
theorem Use.perform_change (specs : Catalogue β σ) (exec : β → Action σ) (u : Use σ ρ)
    (r : Registry β) (t : Thread σ) :
    ∃ key, Registry.Change (specs.spec key) (u.pathOf key) r (u.perform specs exec r t).2.1 ∧
      ∀ other, other ≠ key → u.pathOf other = none := by
  cases u with
  | root key =>
    refine ⟨key, ?_, fun _ _ => rfl⟩
    rcases Registry.rootFor_cases (specs.spec key) r t with
      ⟨p, hs, hn, h⟩ | ⟨slot, hs, h⟩ | ⟨name, hs, hn, h⟩
    · simp only [perform, h]
      exact .nameless _ hs hn
    · simp only [perform, h]
      exact .same r
    · simp only [perform, h]
      exact .registered hs hn
  | tree key =>
    refine ⟨key, ?_, fun _ _ => rfl⟩
    rcases Registry.firstUse_cases (specs.spec key) r t with ⟨p, hs, hn, h⟩ | ⟨outcome, r', t', hu, h⟩
    · simp only [perform, h]
      exact .nameless _ hs hn
    · simp only [perform, h]
      exact .used hu
  | bridge key config =>
    refine ⟨key, ?_, fun _ hk => if_neg (Ne.symm hk)⟩
    rw [pathOf, if_pos rfl]
    exact Registry.bridgeFor_change (specs.spec key) config r t
  | bridgeOver key name separator path =>
    refine ⟨key, ?_, fun _ hk => if_neg (Ne.symm hk)⟩
    rw [pathOf, if_pos rfl]
    rcases perform_bridgeOver specs exec key name separator path r t with
      ⟨p, hs, hn, h⟩ | ⟨e, r', t', hu, h⟩ | ⟨whole, r', t', hu, h⟩
    · rw [h]
      exact .nameless _ hs hn
    · rw [h]
      exact .failed _ hu
    · have hnamed := Registry.Change.named path hu
      rw [specs.key_spec] at hnamed
      rw [h]
      exact hnamed
  | run key config recorder host =>
    refine ⟨key, ?_, fun _ hk => if_neg (Ne.symm hk)⟩
    rw [pathOf, if_pos rfl, perform]
    simp only [Registry.runSpecWith_registry]
    exact Registry.bridgeFor_change (specs.spec key) config r t
  | meanwhile f =>
    exact ⟨0, .same r, fun _ _ => rfl⟩

namespace Registry

theorem tracked_perform (specs : Catalogue β σ) (exec : β → Action σ) (u : Use σ ρ) {key : Nat}
    {paths : List (List Nat)} {r : Registry β} (t : Thread σ)
    (h : Tracked (specs.spec key) paths r) :
    Tracked (specs.spec key) (paths ++ (u.pathOf key).toList) (u.perform specs exec r t).2.1 := by
  obtain ⟨used, hc, ho⟩ := u.perform_change specs exec r t
  by_cases hk : key = used
  · rw [hk] at h ⊢
    exact hc.tracked h
  · have hne : (specs.spec key).key ≠ (specs.spec used).key := by
      rwa [specs.key_spec, specs.key_spec]
    rw [ho key hk, Option.toList_none, List.append_nil]
    exact h.congr (hc.slot?_of_ne hne)

theorem persists_perform (specs : Catalogue β σ) (exec : β → Action σ) (u : Use σ ρ) (key : Nat)
    (r : Registry β) (t : Thread σ) :
    Persists (r.outcome? key) ((u.perform specs exec r t).2.1.outcome? key) := by
  obtain ⟨used, hc, -⟩ := u.perform_change specs exec r t
  by_cases hk : key = used
  · have hp := hc.persists
    rwa [specs.key_spec, ← hk] at hp
  · have hne : key ≠ (specs.spec used).key := by rwa [specs.key_spec]
    rw [outcome?_congr (hc.slot?_of_ne hne)]
    exact .refl _

/-- After any history the names in a tree are those of the first bridges. -/
theorem tracked_serve (specs : Catalogue β σ) (exec : β → Action σ) (uses : List (Use σ ρ)) {key : Nat}
    {paths : List (List Nat)} {r : Registry β} (t : Thread σ)
    (h : Tracked (specs.spec key) paths r) :
    Tracked (specs.spec key) (paths ++ Use.pathsOf key uses) (serve specs exec uses r t).2.1 := by
  induction uses generalizing paths r t with
  | nil => simpa [Use.pathsOf, serve] using h
  | cons u uses ih =>
    have h' := ih (u.perform specs exec r t).2.2 (tracked_perform specs exec u t h)
    have hp : Use.pathsOf key (u :: uses) = (u.pathOf key).toList ++ Use.pathsOf key uses := by
      rw [Use.pathsOf, Use.pathsOf, List.filterMap_cons]
      cases u.pathOf key <;> rfl
    rw [hp, ← List.append_assoc]
    exact h'

/-- No history undoes a compilation or changes a tree otherwise than by names. -/
theorem persists_serve (specs : Catalogue β σ) (exec : β → Action σ) (uses : List (Use σ ρ))
    (key : Nat) (r : Registry β) (t : Thread σ) :
    Persists (r.outcome? key) ((serve specs exec uses r t).2.1.outcome? key) := by
  induction uses generalizing r t with
  | nil => exact .refl _
  | cons u uses ih =>
    exact (persists_perform specs exec u key r t).trans (ih _ (u.perform specs exec r t).2.2)

/-- The answer to a use in the middle of a history is the one that it gets from what the uses before it
have left. -/
theorem serve_split (specs : Catalogue β σ) (exec : β → Action σ) {uses : List (Use σ ρ)} {i : Nat}
    {u : Use σ ρ} (h : uses[i]? = some u) (r : Registry β) (t : Thread σ) :
    ∃ r₁ t₁ b r₂ t₂, (serve specs exec (uses.take i) r t).2 = (r₁, t₁) ∧
      u.perform specs exec r₁ t₁ = (b, r₂, t₂) ∧
      (serve specs exec uses r t).1[i]? = some b ∧
      (serve specs exec uses r t).2 = (serve specs exec (uses.drop (i + 1)) r₂ t₂).2 := by
  induction uses generalizing i r t with
  | nil => simp at h
  | cons v uses ih =>
    cases i with
    | zero =>
      obtain rfl : v = u := Option.some.inj h
      exact ⟨r, t, _, _, _, rfl, rfl, rfl, rfl⟩
    | succ i =>
      exact ih h (v.perform specs exec r t).2.1 (v.perform specs exec r t).2.2

end Registry

end Exemplar

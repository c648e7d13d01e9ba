import Exemplar.Proofs.Registry.History

namespace Exemplar

variable {β σ ρ : Type}

theorem Bridge.invocations_eq (spec separator : String) (g : Group β) :
    (Bridge.ofGroup spec separator g).1.invocations =
      ((Bridge.entries g).map Prod.fst).mapIdx fun i id => ⟨id, spec, i⟩ := by
  apply List.ext_getElem?
  intro i
  rw [Bridge.getElem?_invocations, List.getElem?_mapIdx, List.getElem?_map, Option.map_map]
  rfl

namespace Use

theorem perform_bridge (specs : Catalogue β σ) (exec : β → Action σ) {key : Nat} {name : String}
    (hn : (specs.spec key).name = .ok name) (config : Config) (r : Registry β) (t : Thread σ) :
    (bridge key config : Use σ ρ).perform specs exec r t =
      (bridgeOver key name config.nameSeparator [] : Use σ ρ).perform specs exec r t := by
  rcases h : r.firstUse (specs.spec key) t with ⟨e | whole, r', t'⟩
  · simp only [perform, Registry.bridgeFor, h]
    rfl
  · have hat : whole.at? [] = some whole := rfl
    simp only [perform, Registry.bridgeFor, Registry.bridgeOver, h, hn, hat, specs.key_spec]
    rfl

end Use

namespace Registry

variable (specs : Catalogue β σ) (exec : β → Action σ)

/-- A bridge over a group, made in the course of a history at whose end the tree is compiled, is over
the examples that the group has in the end. -/
theorem serve_bridgeOver {uses : List (Use σ ρ)} {i key : Nat} {u : Use σ ρ} {name separator : String}
    {path : List Nat} {tree g : Group β} (t : Thread σ) (hi : uses[i]? = some u)
    (hu : ∀ r t, u.perform specs exec r t =
      (Use.bridgeOver key name separator path : Use σ ρ).perform specs exec r t)
    (hp : u.pathOf key = some path)
    (ht : (serve specs exec uses .empty t).2.1.tree? key = some tree) (hg : tree.at? path = some g) :
    ∃ sub, (serve specs exec uses .empty t).1[i]? =
        some (some (Bridge.ofGroup name separator sub).1) ∧
      g.flatten = sub.named.flatten ∧
      g.flatten.map Example.generatedName = (List.range' (tree.offset path) g.exampleCount).map
        (tree.firstAllocated (Use.pathsOf key (uses.take (i + 1)))) := by
  obtain ⟨r₁, t₁, b, r₂, t₂, hbefore, hperform, hanswer, hafter⟩ :=
    serve_split specs exec hi .empty t
  have hfinal := outcome?_of_tree? ht
  have htracked := tracked_serve specs exec uses t (.empty (specs.spec key))
  have htracked₁ := tracked_serve specs exec (uses.take i) t (.empty (specs.spec key))
  have hpersists := persists_serve specs exec (uses.drop (i + 1)) key r₂ t₂
  rw [← hafter, hfinal] at hpersists
  rw [hbefore] at htracked₁
  rw [hu] at hperform
  simp only [List.nil_append] at htracked htracked₁
  rcases Use.perform_bridgeOver specs exec key name separator path r₁ t₁ with
    ⟨p, -, hn, -⟩ | ⟨e, r', t', hused, h⟩ | ⟨whole, r', t', hused, h⟩
  · -- the spec has got its slot in the end, and so it has a name
    rw [← specs.key_spec key] at hfinal
    obtain ⟨slot, hs⟩ := slot?_isSome_of_outcome? hfinal
    obtain ⟨name, hn'⟩ := htracked.has_name slot hs
    rw [hn] at hn'
    simp at hn'
  · -- an error would have stayed
    obtain ⟨rfl, rfl, rfl⟩ := h.symm.trans hperform
    have hstored := hused.stored
    rw [specs.key_spec] at hstored
    rw [hstored] at hpersists
    cases hpersists
  · obtain ⟨rfl, rfl, rfl⟩ := h.symm.trans hperform
    have hstored := hused.stored
    rw [specs.key_spec] at hstored
    have hunnamed : tree.unnamed = whole.unnamed := by
      have hlast := (persists_nameAt path hstored).trans hpersists
      rw [hstored] at hlast
      cases hlast with
      | compiled h => exact h
    have hat : (whole.at? path).map Group.unnamed = some g.unnamed := by
      rw [← Group.unnamed_at?, ← hunnamed, Group.unnamed_at?, hg, Option.map_some]
    obtain ⟨sub, hsub, -⟩ := Option.map_eq_some_iff.mp hat
    have hwhole := (htracked₁.used hused).named whole hused.stored
    have htree := htracked.named tree (by rwa [specs.key_spec])
    have huses : Use.pathsOf key uses =
        Use.pathsOf key (uses.take i) ++ [path] ++ Use.pathsOf key (uses.drop (i + 1)) := by
      rw [← Use.pathsOf_take_succ hi hp, ← Use.pathsOf_append, List.take_append_drop]
    rw [huses] at htree
    refine ⟨sub, ?_, ?_⟩
    · rw [hanswer, hsub, Option.map_some]
    · rw [Use.pathsOf_take_succ hi hp]
      exact hwhole.settled hsub hunnamed htree hg

/-- A bridge is faithful to the examples of its group exactly if the names that the bridges up to it
have allocated first, be they over this group or over others, are pairwise distinct. -/
theorem faithful_serve_iff {uses : List (Use σ ρ)} {i key : Nat} {name separator : String}
    {path : List Nat} {tree g : Group β} (t : Thread σ)
    (hi : uses[i]? = some (.bridgeOver key name separator path))
    (ht : (serve specs exec uses .empty t).2.1.tree? key = some tree) (hg : tree.at? path = some g) :
    ∃ b, (serve specs exec uses .empty t).1[i]? = some (some b) ∧
      (b.Faithful g.flatten ↔ ((List.range' (tree.offset path) g.exampleCount).map
        (tree.firstAllocated (Use.pathsOf key (uses.take (i + 1))))).Nodup) := by
  have hp : (Use.bridgeOver key name separator path : Use σ ρ).pathOf key = some path := if_pos rfl
  obtain ⟨sub, hanswer, hflat, hnames⟩ :=
    serve_bridgeOver specs exec t hi (fun _ _ => rfl) hp ht hg
  refine ⟨_, hanswer, ?_⟩
  rw [← hnames, hflat]
  exact Bridge.faithful_iff_nodup name separator sub

/-- Two groups with the same descriptions: the bridge over the second gives its example the name that
the bridge over the whole then allocates for the first, which has none yet. The second bridge has one
identifier twice and never reaches the first example. -/
theorem not_faithful_serve_twins :
    let twins : Program Unit Unit := .group "g" (.leaf "x" ⟨"spec", 1⟩ none .done)
      (.group "g" (.leaf "x" ⟨"spec", 2⟩ none .done) .done)
    let uses : List (Use Unit Unit) := [.bridgeOver 0 "s" " " [1], .bridgeOver 0 "s" " " []]
    let served := serve (.ofProgram "s" twins) (fun _ t => (.returned (.ok ()), t)) uses .empty
      (.fresh ())
    ∃ tree b, served.2.1.tree? 0 = some tree ∧ served.1[1]? = some (some b) ∧
      b.invocations.map Invocation.id = ["g_x", "g_x"] ∧ ¬ b.Faithful tree.flatten := by
  intro twins uses served
  let tree : Group Unit :=
    ⟨"", .branch "g" (.leaf ⟨"x", ["g"], ⟨"spec", 1⟩, none, some "g_x"⟩ .nil) [] []
      (.branch "g" (.leaf ⟨"x", ["g"], ⟨"spec", 2⟩, none, some "g_x"⟩ .nil) [] [] .nil), [], []⟩
  have ht : served.2.1.tree? 0 = some tree := rfl
  have hi : uses[1]? = some (.bridgeOver 0 "s" " " []) := rfl
  have hg : tree.at? [] = some tree := rfl
  obtain ⟨b, hb, hiff⟩ := faithful_serve_iff _ _ _ hi ht hg
  refine ⟨tree, b, ht, hb, ?_, ?_⟩
  · obtain rfl := Option.some.inj (Option.some.inj hb)
    rfl
  · rw [hiff]
    decide +kernel

/-- Where no bridge is over a proper subgroup, all bridges over a spec have the same invocations, and
each of these has the identifier that the descriptions of the tree determine and the example of the
same number. Further descriptions at the end would not change an identifier. -/
theorem invocations_serve_whole {uses : List (Use σ ρ)} {key : Nat} {name : String} {tree : Group β}
    (t : Thread σ) (hn : (specs.spec key).name = .ok name) (hw : ∀ u ∈ uses, u.IsWhole key)
    (ht : (serve specs exec uses .empty t).2.1.tree? key = some tree) :
    let chains := tree.flatten.map Example.chain
    let ids := Identifier.ofChains chains
    ids.Nodup ∧ ids.length = tree.exampleCount ∧
      (∀ more, ids <+: Identifier.ofChains (chains ++ more)) ∧
      ∀ (i : Nat) (config : Config), uses[i]? = some (.bridge key config) →
        ∃ b, (serve specs exec uses .empty t).1[i]? = some (some b) ∧
          b.invocations = ids.mapIdx (fun j id => ⟨id, name, j⟩) ∧
          (∀ (j : Nat) id, ids[j]? = some id → ∃ e, tree.flatten[j]? = some e ∧
            e.generatedName = some id ∧ b.getExample id = .ok e) ∧
          ∀ id, id ∉ ids → b.getExample id = .error (.unboundInvocation name id) := by
  intro chains ids
  have hids : tree.identifiers = ids := rfl
  have hnodup : ids.Nodup := Identifier.ofChains_nodup chains
  refine ⟨hnodup, tree.length_identifiers, Identifier.ofChains_isPrefix_append chains, ?_⟩
  intro i config hi
  have hp : (Use.bridge key config : Use σ ρ).pathOf key = some [] := if_pos rfl
  have hg : tree.at? [] = some tree := rfl
  obtain ⟨sub, hanswer, hflat, hnames⟩ :=
    serve_bridgeOver specs exec t hi (Use.perform_bridge specs exec hn config) hp ht hg
  have hpaths : ∀ p ∈ Use.pathsOf key (uses.take (i + 1)), p = [] :=
    Use.pathsOf_whole fun u hu => hw u (List.mem_of_mem_take hu)
  have hmem : [] ∈ Use.pathsOf key (uses.take (i + 1)) := by
    rw [Use.pathsOf_take_succ hi hp]
    simp
  rw [Group.offset, tree.map_firstAllocated_whole hpaths hmem, hids] at hnames
  have hentries : (Bridge.entries sub).map Prod.fst = ids :=
    Bridge.map_fst_entries_of_names sub (by rw [← hflat, hnames])
  have hinv := Bridge.invocations_eq name config.nameSeparator sub
  rw [hentries] at hinv
  refine ⟨_, hanswer, hinv, ?_, ?_⟩
  · intro j id hj
    have hnames_nodup : (sub.named.flatten.map Example.generatedName).Nodup := by
      rw [← hflat, hnames]
      exact hnodup.map fun _ _ => Option.some.inj
    have hfaithful := (Bridge.faithful_iff_nodup name config.nameSeparator sub).mpr hnames_nodup
    rw [← hflat] at hfaithful
    have hname : (tree.flatten.map Example.generatedName)[j]? = some (some id) := by
      rw [hnames, List.getElem?_map, hj, Option.map_some]
    rw [List.getElem?_map] at hname
    obtain ⟨e, he, hgen⟩ := Option.map_eq_some_iff.mp hname
    obtain ⟨v, hv, hbound⟩ := hfaithful.bound j e he
    rw [hinv, List.getElem?_mapIdx, hj, Option.map_some] at hv
    obtain rfl := Option.some.inj hv
    exact ⟨e, he, hgen, hbound⟩
  · intro id hid
    apply Bridge.getExample_of_not_mem
    rwa [hentries]

set_option maxRecDepth 2000 in
/-- Descriptions that look like numbered identifiers, a run between two bridges. -/
theorem invocations_serve_whole_suffixes :
    let p : Program Unit Unit := .leaf "case 2" ⟨"spec", 1⟩ none (.leaf "case" ⟨"spec", 2⟩ none
      (.leaf "case" ⟨"spec", 3⟩ none .done))
    let uses : List (Use Unit (List RecordedFailure)) :=
      [.bridge 0 .default, .run 0 .default collecting [], .bridge 0 ⟨"warn", .compact, "/"⟩]
    let served := serve (.ofProgram "s" p) (fun _ t => (.returned (.ok ()), t)) uses .empty (.fresh ())
    ∃ b, served.1[2]? = some (some b) ∧
      b.invocations.map Invocation.id = ["case_2", "case", "case_3"] := by
  intro p uses served
  let tree : Group Unit :=
    ⟨"", .leaf ⟨"case 2", [], ⟨"spec", 1⟩, none, some "case_2"⟩
      (.leaf ⟨"case", [], ⟨"spec", 2⟩, none, some "case"⟩
        (.leaf ⟨"case", [], ⟨"spec", 3⟩, none, some "case_3"⟩ .nil)), [], []⟩
  have ht : served.2.1.tree? 0 = some tree := rfl
  have hw : ∀ u ∈ uses, u.IsWhole 0 := by
    simp [uses, Use.IsWhole, Use.pathOf]
  obtain ⟨-, -, -, hbridges⟩ := invocations_serve_whole _ _ _ rfl hw ht
  obtain ⟨b, hb, hinv, -⟩ := hbridges 2 _ rfl
  refine ⟨b, hb, ?_⟩
  rw [hinv]
  decide +kernel

end Registry

end Exemplar

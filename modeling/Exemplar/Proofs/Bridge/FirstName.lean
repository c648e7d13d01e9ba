import Exemplar.Proofs.Bridge.Binding

/-! Which name an example bears after bridges over several groups of its tree: the identifier that the
first of those bridges allocated for it. The allocators know nothing of each other, so examples that
were first named by different bridges may bear the same name. -/

namespace Exemplar

variable {β : Type}

theorem Example.eq_of_unnamed_eq {e e' : Example β} (hu : e.unnamed = e'.unnamed)
    (hn : e.generatedName = e'.generatedName) : e = e' := by
  cases e
  cases e'
  simp_all [unnamed]

/-- The example after an identifier was allocated for it, or none was. -/
def Example.assigned (e : Example β) : Option String → Example β
  | some name => e.assignName name
  | none => e

theorem Example.generatedName_assigned (e : Example β) (name : Option String) :
    (e.assigned name).generatedName = e.generatedName.or name := by
  cases name with
  | none => exact Option.or_none.symm
  | some name =>
    rw [assigned, assignName, nameAfter]
    cases e.generatedName <;> rfl

theorem Children.groups_setGroup {c : Children β} {i : Nat} {sub g : Group β}
    (h : c.groups[i]? = some sub) : (c.setGroup i g).groups[i]? = some g := by
  induction c generalizing i with
  | nil => simp [groups] at h
  | leaf e rest ih => exact ih h
  | branch d members before after rest _ ihr =>
    cases i with
    | zero => rfl
    | succ i => exact ihr h

namespace Group

/-- The identifier that a bridge over the group at a path allocates for the example with number `i` in
the whole tree, if the example is beneath that group. -/
def allocated (g : Group β) (path : List Nat) (i : Nat) : Option String :=
  match g.at? path with
  | some sub => if g.offset path ≤ i then sub.identifiers[i - g.offset path]? else none
  | none => none

/-- The identifier that an example was allocated by the first of several bridges, given by the paths
of their groups, that had the example beneath it. -/
def firstAllocated (g : Group β) (paths : List (List Nat)) (i : Nat) : Option String :=
  paths.findSome? fun path => g.allocated path i

/-- The names in the tree are those that bridges over the groups at the paths have given. -/
def NamedBy (g : Group β) (paths : List (List Nat)) : Prop :=
  ∀ (i : Nat) (e : Example β), g.flatten[i]? = some e →
    e.generatedName = g.firstAllocated paths i

theorem at?_updateAt {g sub : Group β} {path : List Nat} {f : Group β → Group β}
    (h : g.at? path = some sub) : (g.updateAt path f).at? path = some (f sub) := by
  induction path generalizing g with
  | nil =>
    obtain rfl : g = sub := Option.some.inj h
    rfl
  | cons i path ih =>
    rw [at?] at h
    cases hi : g.groups[i]? with
    | none => rw [hi] at h; simp at h
    | some child =>
      rw [hi] at h
      have hg : (g.updateAt (i :: path) f).groups[i]? = some (child.updateAt path f) := by
        simp only [updateAt, hi]
        exact Children.groups_setGroup hi
      rw [at?, hg]
      exact ih h

theorem unnamed_updateAt_named {g sub : Group β} {path : List Nat} (h : g.at? path = some sub) :
    (g.updateAt path fun _ => sub.named).unnamed = g.unnamed :=
  unnamed_updateAt h sub.unnamed_named

theorem allocated_unnamed (g : Group β) (path : List Nat) (i : Nat) :
    g.unnamed.allocated path i = g.allocated path i := by
  rw [allocated, allocated, unnamed_at?, unnamed_offset]
  cases g.at? path with
  | none => rfl
  | some sub => simp only [Option.map_some, identifiers_unnamed]

theorem firstAllocated_congr {g g' : Group β} (h : g.unnamed = g'.unnamed)
    (paths : List (List Nat)) (i : Nat) : g.firstAllocated paths i = g'.firstAllocated paths i := by
  have ha (path : List Nat) : g.allocated path i = g'.allocated path i := by
    rw [← g.allocated_unnamed, h, g'.allocated_unnamed]
  simp only [firstAllocated, ha]

theorem firstAllocated_append (g : Group β) (paths more : List (List Nat)) (i : Nat) :
    g.firstAllocated (paths ++ more) i =
      (g.firstAllocated paths i).or (g.firstAllocated more i) :=
  List.findSome?_append

theorem firstAllocated_singleton (g : Group β) (path : List Nat) (i : Nat) :
    g.firstAllocated [path] i = g.allocated path i := by
  rw [firstAllocated, List.findSome?_cons]
  cases g.allocated path i <;> rfl

theorem allocated_add {g sub : Group β} {path : List Nat} (h : g.at? path = some sub) (i : Nat) :
    g.allocated path (g.offset path + i) = sub.identifiers[i]? := by
  simp [allocated, h]

theorem allocated_lt {g : Group β} {path : List Nat} {i : Nat} (h : i < g.offset path) :
    g.allocated path i = none := by
  rw [allocated]
  split
  · exact if_neg (by omega)
  · rfl

theorem allocated_of_none {g : Group β} {path : List Nat} (h : g.at? path = none) (i : Nat) :
    g.allocated path i = none := by
  rw [allocated, h]

theorem namedBy_nil {g : Group β} (h : ∀ e ∈ g.flatten, e.generatedName = none) : g.NamedBy [] :=
  fun _ e he => h e (List.mem_of_getElem? he)

theorem NamedBy.miss {g : Group β} {paths : List (List Nat)} {path : List Nat}
    (hn : g.NamedBy paths) (h : g.at? path = none) : g.NamedBy (paths ++ [path]) := by
  intro i e he
  rw [hn i e he, firstAllocated_append, firstAllocated_singleton, allocated_of_none h,
    Option.or_none]

/-- A bridge over the group at a path gives each example of the tree the name that it allocates for
it, if it allocates one. -/
theorem getElem?_flatten_named {g sub : Group β} {path : List Nat} (h : g.at? path = some sub)
    (i : Nat) : (g.updateAt path fun _ => sub.named).flatten[i]? =
      g.flatten[i]?.map (Example.assigned · (g.allocated path i)) := by
  obtain ⟨front, back, hl, hf, hs⟩ := flatten_updateAt h
  have hids : sub.identifiers.length = sub.flatten.length := by
    rw [length_identifiers, exampleCount_eq_length]
  have hnamed : sub.named.flatten.length = sub.flatten.length := by
    rw [flatten_named, List.length_zipWith, hids, Nat.min_self]
  rw [hs, hf, List.append_assoc, List.append_assoc]
  by_cases hfront : i < front.length
  · have hnone : g.allocated path i = none := allocated_lt (by omega)
    rw [List.getElem?_append_left hfront, List.getElem?_append_left hfront, hnone]
    exact (Option.map_id_apply).symm
  · have hback : front.length ≤ i := by omega
    have hi : g.offset path + (i - front.length) = i := by omega
    have halloc : g.allocated path i = sub.identifiers[i - front.length]? := by
      rw [← allocated_add h, hi]
    rw [List.getElem?_append_right hback, List.getElem?_append_right hback, halloc]
    by_cases hin : i - front.length < sub.flatten.length
    · have hid : i - front.length < sub.identifiers.length := by omega
      rw [List.getElem?_append_left (by omega), List.getElem?_append_left hin, flatten_named,
        List.getElem?_zipWith, List.getElem?_eq_getElem hin, List.getElem?_eq_getElem hid]
      rfl
    · have hnone : sub.identifiers[i - front.length]? = none :=
        List.getElem?_eq_none (by omega)
      have hout : sub.flatten.length ≤ i - front.length := by omega
      rw [List.getElem?_append_right (hnamed ▸ hout), List.getElem?_append_right hout, hnamed, hnone]
      exact (Option.map_id_apply).symm

/-- A further bridge names those examples beneath its group that had no name. -/
theorem NamedBy.step {g sub : Group β} {paths : List (List Nat)} {path : List Nat}
    (hn : g.NamedBy paths) (h : g.at? path = some sub) :
    (g.updateAt path fun _ => sub.named).NamedBy (paths ++ [path]) := by
  intro i e he
  rw [getElem?_flatten_named h] at he
  obtain ⟨e, hold, rfl⟩ := Option.map_eq_some_iff.mp he
  rw [firstAllocated_congr (unnamed_updateAt_named h), firstAllocated_append,
    firstAllocated_singleton, ← hn i e hold, e.generatedName_assigned]

/-- The names of the examples beneath one group of the tree. -/
theorem NamedBy.generatedName {g sub : Group β} {paths : List (List Nat)} {path : List Nat}
    (hn : g.NamedBy paths) (h : g.at? path = some sub) {i : Nat} {e : Example β}
    (he : sub.flatten[i]? = some e) :
    e.generatedName = g.firstAllocated paths (g.offset path + i) := by
  obtain ⟨front, back, hl, hf, -⟩ := flatten_updateAt h
  have hi : i < sub.flatten.length := (List.getElem?_eq_some_iff.mp he).1
  apply hn
  rw [hf, List.append_assoc, List.getElem?_append_right (by omega), hl, Nat.add_sub_cancel_left,
    List.getElem?_append_left hi, he]

theorem NamedBy.map_generatedName {g sub : Group β} {paths : List (List Nat)} {path : List Nat}
    (hn : g.NamedBy paths) (h : g.at? path = some sub) :
    sub.flatten.map Example.generatedName =
      (List.range' (g.offset path) sub.exampleCount).map (g.firstAllocated paths) := by
  apply List.ext_getElem
  · rw [List.length_map, List.length_map, List.length_range', exampleCount_eq_length]
  · intro i hi hi'
    rw [List.length_map] at hi
    rw [List.getElem_map, List.getElem_map, List.getElem_range', Nat.one_mul]
    exact hn.generatedName h (List.getElem?_eq_getElem hi)

/-- Once a bridge over a group was made, later bridges leave the examples beneath it as they are. -/
theorem NamedBy.flatten_eq {g g' sub sub' : Group β} {paths more : List (List Nat)}
    {path : List Nat} (hu : g'.unnamed = g.unnamed) (hn : g.NamedBy paths)
    (hn' : g'.NamedBy (paths ++ more)) (hmem : path ∈ paths) (h : g.at? path = some sub)
    (h' : g'.at? path = some sub') : sub'.flatten = sub.flatten := by
  have hsub : sub'.unnamed = sub.unnamed := by
    have ha : g'.unnamed.at? path = g.unnamed.at? path := by rw [hu]
    rw [unnamed_at?, unnamed_at?, h, h'] at ha
    exact Option.some.inj ha
  have hflat : sub'.flatten.map Example.unnamed = sub.flatten.map Example.unnamed := by
    rw [← flatten_unnamed, hsub, flatten_unnamed]
  have hoff : g'.offset path = g.offset path := by
    rw [← unnamed_offset, hu, unnamed_offset]
  have hlen : sub'.flatten.length = sub.flatten.length := by
    simpa only [List.length_map] using congrArg List.length hflat
  apply List.ext_getElem hlen
  intro i hi' hi
  apply Example.eq_of_unnamed_eq
  · have hmap := List.getElem_of_eq hflat (by rwa [List.length_map])
    rwa [List.getElem_map, List.getElem_map] at hmap
  · rw [hn.generatedName h (List.getElem?_eq_getElem hi),
      hn'.generatedName h' (List.getElem?_eq_getElem hi'), hoff, firstAllocated_congr hu,
      firstAllocated_append]
    have hid : i < sub.identifiers.length := by
      rwa [length_identifiers, exampleCount_eq_length]
    have hsome : (g.firstAllocated paths (g.offset path + i)).isSome := by
      rw [firstAllocated, List.findSome?_isSome_iff]
      refine ⟨path, hmem, ?_⟩
      rw [allocated_add h, List.getElem?_eq_getElem hid]
      rfl
    obtain ⟨name, hname⟩ := Option.isSome_iff_exists.mp hsome
    rw [hname, Option.some_or]

/-- Whatever bridges are made later, the examples of a bridge stay as it has left them, and their names
are those that the bridges up to it have allocated first. -/
theorem NamedBy.settled {whole tree sub g : Group β} {paths more : List (List Nat)} {path : List Nat}
    (hn : whole.NamedBy paths) (hsub : whole.at? path = some sub) (hu : tree.unnamed = whole.unnamed)
    (hn' : tree.NamedBy (paths ++ [path] ++ more)) (hg : tree.at? path = some g) :
    g.flatten = sub.named.flatten ∧
      g.flatten.map Example.generatedName =
        (List.range' (tree.offset path) g.exampleCount).map (tree.firstAllocated (paths ++ [path])) := by
  have hat : (whole.updateAt path fun _ => sub.named).at? path = some sub.named := at?_updateAt hsub
  have hu' : tree.unnamed = (whole.updateAt path fun _ => sub.named).unnamed := by
    rw [unnamed_updateAt_named hsub, hu]
  have hmem : path ∈ paths ++ [path] := by simp
  have hflat : g.flatten = sub.named.flatten := (hn.step hsub).flatten_eq hu' hn' hmem hat hg
  refine ⟨hflat, ?_⟩
  have hcount : g.exampleCount = sub.named.exampleCount := by
    rw [exampleCount_eq_length, hflat, exampleCount_eq_length]
  have hoff : tree.offset path = (whole.updateAt path fun _ => sub.named).offset path := by
    rw [← unnamed_offset, hu', unnamed_offset]
  have hfirst : tree.firstAllocated (paths ++ [path]) =
      (whole.updateAt path fun _ => sub.named).firstAllocated (paths ++ [path]) :=
    funext (firstAllocated_congr hu' _)
  calc g.flatten.map Example.generatedName
      = sub.named.flatten.map Example.generatedName := by rw [hflat]
    _ = (List.range' ((whole.updateAt path fun _ => sub.named).offset path)
          sub.named.exampleCount).map
          ((whole.updateAt path fun _ => sub.named).firstAllocated (paths ++ [path])) :=
        (hn.step hsub).map_generatedName hat
    _ = (List.range' (tree.offset path) g.exampleCount).map
          (tree.firstAllocated (paths ++ [path])) := by rw [hcount, hoff, hfirst]

/-- If all bridges are over the whole tree, each example is allocated its identifier in the tree. -/
theorem map_firstAllocated_whole (g : Group β) {paths : List (List Nat)} (h : ∀ p ∈ paths, p = [])
    (hm : [] ∈ paths) :
    (List.range' 0 g.exampleCount).map (g.firstAllocated paths) = g.identifiers.map some := by
  have hfirst (i : Nat) (hi : i < g.identifiers.length) :
      g.firstAllocated paths i = some g.identifiers[i] := by
    have hwhole : g.allocated [] i = some g.identifiers[i] := by
      have hat : g.at? [] = some g := rfl
      have hadd := allocated_add hat i
      rwa [offset, Nat.zero_add, List.getElem?_eq_getElem hi] at hadd
    cases paths with
    | nil => exact absurd hm List.not_mem_nil
    | cons p paths =>
      rw [h p List.mem_cons_self, firstAllocated, List.findSome?_cons, hwhole]
  apply List.ext_getElem
  · rw [List.length_map, List.length_map, List.length_range', length_identifiers]
  · intro i hi hi'
    rw [List.length_map] at hi'
    rw [List.getElem_map, List.getElem_map, List.getElem_range', Nat.one_mul, Nat.zero_add,
      hfirst i hi']

/-- After bridges over the whole tree only, the next one gives the same identifiers. -/
theorem NamedBy.map_fst_entries {g : Group β} {paths : List (List Nat)} (hn : g.NamedBy paths)
    (h : ∀ p ∈ paths, p = []) : (Bridge.entries g).map Prod.fst = g.identifiers := by
  have hwhole : g.at? [] = some g := rfl
  have hpaths : ∀ p ∈ paths ++ [[]], p = [] := by
    intro p hp
    rcases List.mem_append.mp hp with hp | hp
    · exact h p hp
    · exact List.mem_singleton.mp hp
  have hnamed : g.named.NamedBy (paths ++ [[]]) := hn.step hwhole
  have hat : g.named.at? [] = some g.named := rfl
  have hnames : g.named.flatten.map Example.generatedName = g.identifiers.map some := by
    calc g.named.flatten.map Example.generatedName
        = (List.range' 0 g.named.exampleCount).map (g.named.firstAllocated (paths ++ [[]])) :=
          hnamed.map_generatedName hat
      _ = g.named.identifiers.map some := g.named.map_firstAllocated_whole hpaths (by simp)
      _ = g.identifiers.map some := by
        rw [g.identifiers_named]
  exact Bridge.map_fst_entries_of_names g hnames

end Group

end Exemplar

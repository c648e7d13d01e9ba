import Exemplar.Proofs.Tree.Shape

namespace Exemplar

variable {β : Type}

/-- The example as it was declared. -/
def Example.unnamed (e : Example β) : Example β := { e with generatedName := none }

theorem Example.unnamed_assignName (e : Example β) (name : String) :
    (e.assignName name).unnamed = e.unnamed := rfl

theorem Example.assignName_nameAfter (e : Example β) (name : String) :
    e.assignName (e.nameAfter name) = e.assignName name := by
  cases h : e.generatedName <;> simp [assignName, nameAfter, h]

theorem Example.assignName_assignName (e : Example β) (name : String) :
    (e.assignName name).assignName name = e.assignName name := rfl

namespace Children

/-- The children as they were declared. -/
def unnamed : Children β → Children β
  | nil => nil
  | leaf e rest => leaf e.unnamed rest.unnamed
  | branch d members before after rest => branch d members.unnamed before after rest.unnamed

/-- The number of examples in front of the child group with index `i`. -/
def offset : Children β → Nat → Nat
  | nil, _ => 0
  | leaf _ rest, i => 1 + rest.offset i
  | branch _ _ _ _ _, 0 => 0
  | branch _ members _ _ rest, i + 1 => members.exampleCount + rest.offset i

theorem flatten_unnamed (c : Children β) : c.unnamed.flatten = c.flatten.map Example.unnamed := by
  induction c with
  | nil => rfl
  | leaf e rest ih => simp only [unnamed, flatten, List.map_cons, ih]
  | branch d members before after rest ihm ihr =>
    simp only [unnamed, flatten, List.map_append, ihm, ihr]

theorem exampleCount_unnamed (c : Children β) : c.unnamed.exampleCount = c.exampleCount := by
  rw [exampleCount_eq_length, exampleCount_eq_length, flatten_unnamed, List.length_map]

theorem offset_unnamed (c : Children β) (i : Nat) : c.unnamed.offset i = c.offset i := by
  induction c generalizing i with
  | nil => rfl
  | leaf e rest ih => simp only [unnamed, offset, ih]
  | branch d members before after rest _ ihr =>
    cases i with
    | zero => rfl
    | succ i => simp only [unnamed, offset, exampleCount_unnamed, ihr]

/-- A child group cuts the examples in three: those in front of it, its own, and those behind it.
Putting another group in its place changes only its own. -/
theorem flatten_setGroup {c : Children β} {i : Nat} {sub : Group β} (h : c.groups[i]? = some sub) :
    ∃ front back, front.length = c.offset i ∧ c.flatten = front ++ sub.flatten ++ back ∧
      ∀ g, (c.setGroup i g).flatten = front ++ g.flatten ++ back := by
  induction c generalizing i with
  | nil => simp [groups] at h
  | leaf e rest ih =>
    obtain ⟨front, back, hl, hf, hs⟩ := ih h
    refine ⟨e :: front, back, ?_, ?_, ?_⟩
    · rw [List.length_cons, hl, offset, Nat.add_comm]
    · rw [flatten, hf]
      rfl
    · intro g
      rw [setGroup, flatten, hs]
      rfl
  | branch d members before after rest _ ihr =>
    cases i with
    | zero =>
      obtain rfl : _ = sub := Option.some.inj h
      exact ⟨[], rest.flatten, rfl, rfl, fun _ => rfl⟩
    | succ i =>
      obtain ⟨front, back, hl, hf, hs⟩ := ihr h
      refine ⟨members.flatten ++ front, back, ?_, ?_, ?_⟩
      · rw [List.length_append, hl, offset, exampleCount_eq_length]
      · rw [flatten, hf]
        simp only [List.append_assoc]
      · intro g
        rw [setGroup, flatten, hs]
        simp only [List.append_assoc]

end Children

namespace Group

/-- The tree as it was declared. -/
def unnamed (g : Group β) : Group β := { g with children := g.children.unnamed }

/-- The number of examples of the tree in front of the group at a path. -/
def offset (g : Group β) : List Nat → Nat
  | [] => 0
  | i :: path =>
    match g.groups[i]? with
    | some sub => g.children.offset i + sub.offset path
    | none => 0

theorem flatten_unnamed (g : Group β) : g.unnamed.flatten = g.flatten.map Example.unnamed :=
  g.children.flatten_unnamed

end Group

theorem Children.groups_unnamed (c : Children β) : c.unnamed.groups = c.groups.map Group.unnamed := by
  induction c with
  | nil => rfl
  | leaf e rest ih => exact ih
  | branch d members before after rest _ ihr => simp only [unnamed, groups, List.map_cons, ihr]; rfl

theorem Children.unnamed_setGroup {c : Children β} {i : Nat} {sub g : Group β}
    (h : c.groups[i]? = some sub) (hg : g.unnamed = sub.unnamed) :
    (c.setGroup i g).unnamed = c.unnamed := by
  induction c generalizing i with
  | nil => rfl
  | leaf e rest ih => rw [setGroup, unnamed, ih h, unnamed]
  | branch d members before after rest _ ihr =>
    cases i with
    | zero =>
      obtain rfl : _ = sub := Option.some.inj h
      simp only [Group.unnamed, Group.mk.injEq] at hg
      simp only [setGroup, unnamed, hg]
    | succ i => rw [setGroup, unnamed, ihr h, unnamed]

namespace Group

theorem groups_unnamed (g : Group β) : g.unnamed.groups = g.groups.map Group.unnamed :=
  g.children.groups_unnamed

theorem unnamed_at? (g : Group β) (path : List Nat) :
    g.unnamed.at? path = (g.at? path).map Group.unnamed := by
  induction path generalizing g with
  | nil => rfl
  | cons i path ih =>
    rw [at?, at?, groups_unnamed, List.getElem?_map]
    cases g.groups[i]? with
    | none => rfl
    | some sub => exact ih sub

theorem unnamed_offset (g : Group β) (path : List Nat) : g.unnamed.offset path = g.offset path := by
  induction path generalizing g with
  | nil => rfl
  | cons i path ih =>
    rw [offset, offset, groups_unnamed, List.getElem?_map]
    cases g.groups[i]? with
    | none => rfl
    | some sub =>
      simp only [Option.map_some, ih sub]
      rw [show g.unnamed.children.offset i = g.children.offset i from g.children.offset_unnamed i]

/-- The group at a path cuts the examples of the tree in three, and changing it changes only those in
the middle. -/
theorem flatten_updateAt {g sub : Group β} {path : List Nat} (h : g.at? path = some sub) :
    ∃ front back, front.length = g.offset path ∧ g.flatten = front ++ sub.flatten ++ back ∧
      ∀ f, (g.updateAt path f).flatten = front ++ (f sub).flatten ++ back := by
  induction path generalizing g with
  | nil =>
    obtain rfl : g = sub := Option.some.inj h
    exact ⟨[], [], rfl, by simp, fun f => by simp [updateAt]⟩
  | cons i path ih =>
    rw [at?] at h
    cases hi : g.groups[i]? with
    | none => rw [hi] at h; simp at h
    | some child =>
      rw [hi] at h
      obtain ⟨front, back, hl, hf, hs⟩ := ih h
      obtain ⟨front', back', hl', hf', hs'⟩ := Children.flatten_setGroup hi
      refine ⟨front' ++ front, back ++ back', ?_, ?_, ?_⟩
      · simp only [offset, hi, List.length_append, hl, hl']
      · rw [flatten, hf', hf]
        simp only [List.append_assoc]
      · intro f
        rw [updateAt, hi]
        simp only [flatten] at hs hs' ⊢
        rw [hs', hs f]
        simp only [List.append_assoc]

theorem unnamed_updateAt {g sub : Group β} {path : List Nat} {f : Group β → Group β}
    (h : g.at? path = some sub) (hf : (f sub).unnamed = sub.unnamed) :
    (g.updateAt path f).unnamed = g.unnamed := by
  induction path generalizing g with
  | nil =>
    obtain rfl : g = sub := Option.some.inj h
    exact hf
  | cons i path ih =>
    rw [at?] at h
    cases hi : g.groups[i]? with
    | none => rw [hi] at h; simp at h
    | some child =>
      rw [hi] at h
      have hc := Children.unnamed_setGroup hi (ih h)
      simp only [updateAt, hi, unnamed, hc]

end Group

theorem zipWith_append_drop {α γ δ : Type} (f : α → γ → δ) (xs ys : List α) (zs : List γ)
    (h : xs.length ≤ zs.length) :
    List.zipWith f (xs ++ ys) zs = List.zipWith f xs zs ++ List.zipWith f ys (zs.drop xs.length) := by
  induction xs generalizing zs with
  | nil => rfl
  | cons x xs ih =>
    cases zs with
    | nil => simp at h
    | cons z zs =>
      have hl : xs.length ≤ zs.length := by simpa using h
      simp only [List.cons_append, List.zipWith_cons_cons, List.length_cons, List.drop_succ_cons,
        ih zs hl]

namespace Children

theorem unnamed_assignNames (c : Children β) (names : List String) :
    (c.assignNames names).1.unnamed = c.unnamed := by
  induction c generalizing names with
  | nil => rfl
  | leaf e rest ih =>
    cases names with
    | nil => rfl
    | cons name names => simp only [assignNames, unnamed, Example.unnamed_assignName, ih]
  | branch d members before after rest ihm ihr => simp only [assignNames, unnamed, ihm, ihr]

/-- With a name for each, the examples are given the names in order, and the names behind are left. -/
theorem flatten_assignNames {c : Children β} {names : List String}
    (h : c.exampleCount ≤ names.length) :
    (c.assignNames names).1.flatten = List.zipWith Example.assignName c.flatten names ∧
      (c.assignNames names).2 = names.drop c.exampleCount := by
  induction c generalizing names with
  | nil => exact ⟨rfl, rfl⟩
  | leaf e rest ih =>
    cases names with
    | nil => simp [exampleCount] at h
    | cons name names =>
      have hr : rest.exampleCount ≤ names.length := by
        simp only [exampleCount, List.length_cons] at h
        omega
      obtain ⟨hf, hn⟩ := ih hr
      constructor
      · simp only [assignNames, flatten, List.zipWith_cons_cons, hf]
      · simp only [assignNames, hn, exampleCount, Nat.add_comm 1, List.drop_succ_cons]
  | branch d members before after rest ihm ihr =>
    simp only [exampleCount] at h
    obtain ⟨hmf, hmn⟩ := ihm (show members.exampleCount ≤ names.length by omega)
    have hr : rest.exampleCount ≤ (names.drop members.exampleCount).length := by
      rw [List.length_drop]
      omega
    obtain ⟨hrf, hrn⟩ := ihr hr
    rw [exampleCount_eq_length] at h hrf
    constructor
    · simp only [assignNames, flatten, hmn, hmf]
      rw [exampleCount_eq_length, hrf, zipWith_append_drop _ _ _ _ (by omega)]
    · simp only [assignNames, hmn, hrn, List.drop_drop, exampleCount]

theorem assignNames_nil (c : Children β) : c.assignNames [] = (c, []) := by
  induction c with
  | nil => rfl
  | leaf e rest => rfl
  | branch d members before after rest ihm ihr => simp only [assignNames, ihm, ihr]

/-- Names that were given before are given again to no effect. -/
theorem assignNames_assignNames (c : Children β) {names more : List String} (h : names <+: more) :
    (c.assignNames names).1.assignNames more = c.assignNames more ∧
      (c.assignNames names).2 <+: (c.assignNames more).2 := by
  induction c generalizing names more with
  | nil => exact ⟨rfl, h⟩
  | leaf e rest ih =>
    cases names with
    | nil => exact ⟨rfl, List.nil_prefix⟩
    | cons name names =>
      cases more with
      | nil => simp at h
      | cons name' more =>
        obtain ⟨rfl, h'⟩ := List.cons_prefix_cons.mp h
        obtain ⟨hrest, hleft⟩ := ih h'
        refine ⟨?_, hleft⟩
        simp only [assignNames, hrest, Example.assignName_assignName]
  | branch d members before after rest ihm ihr =>
    obtain ⟨hmembers, hleft⟩ := ihm h
    obtain ⟨hrest, hleft'⟩ := ihr hleft
    refine ⟨?_, hleft'⟩
    simp only [assignNames, hmembers, hrest]

theorem eq_of_flatten_eq {c c' : Children β} (hu : c.unnamed = c'.unnamed)
    (hf : c.flatten = c'.flatten) : c = c' := by
  induction c generalizing c' with
  | nil => cases c' <;> simp_all [unnamed]
  | leaf e rest ih =>
    cases c' with
    | leaf e' rest' =>
      simp only [unnamed, leaf.injEq] at hu
      simp only [flatten, List.cons.injEq] at hf
      rw [hf.1, ih hu.2 hf.2]
    | _ => simp [unnamed] at hu
  | branch d members before after rest ihm ihr =>
    cases c' with
    | branch d' members' before' after' rest' =>
      simp only [unnamed, branch.injEq] at hu
      obtain ⟨rfl, hm, rfl, rfl, hr⟩ := hu
      have hlength : members.flatten.length = members'.flatten.length := by
        rw [← exampleCount_eq_length, ← exampleCount_eq_length, ← exampleCount_unnamed, hm,
          exampleCount_unnamed]
      obtain ⟨hfm, hfr⟩ := List.append_inj hf hlength
      rw [ihm hm hfm, ihr hr hfr]
    | _ => simp [unnamed] at hu

end Children

namespace Group

theorem unnamed_assignNames (g : Group β) (names : List String) :
    (g.assignNames names).unnamed = g.unnamed := by
  simp only [assignNames, unnamed, Children.unnamed_assignNames]

theorem eq_of_flatten_eq {g g' : Group β} (hu : g.unnamed = g'.unnamed)
    (hf : g.flatten = g'.flatten) : g = g' := by
  rcases g with ⟨d, children, before, after⟩
  rcases g' with ⟨d', children', before', after'⟩
  simp only [unnamed, mk.injEq] at hu
  obtain ⟨rfl, hc, rfl, rfl⟩ := hu
  rw [Children.eq_of_flatten_eq hc hf]

theorem assignNames_nil (g : Group β) : g.assignNames [] = g := by
  rw [assignNames, Children.assignNames_nil]

theorem assignNames_assignNames (g : Group β) {names more : List String} (h : names <+: more) :
    (g.assignNames names).assignNames more = g.assignNames more := by
  simp only [assignNames, (g.children.assignNames_assignNames h).1]

theorem flatten_assignNames {g : Group β} {names : List String} (h : g.exampleCount ≤ names.length) :
    (g.assignNames names).flatten = List.zipWith Example.assignName g.flatten names :=
  (Children.flatten_assignNames h).1

end Group

end Exemplar

import Exemplar.Proofs.Declaration.Schedule

namespace Exemplar

variable {β : Type}

/-- What the group contributes to the examples beneath it. -/
def Group.scope (g : Group β) : Scope β := ⟨g.description, g.before, g.after⟩

/-- The example with the hooks of the groups on its path, which are listed from the outermost on. -/
def Example.within (e : Example β) (around : List (Scope β)) : Scheduled β :=
  ⟨e, around.flatMap Scope.before, around.reverse.flatMap Scope.after⟩

namespace Children

/-- The examples beneath in order, each with the groups on its path, the outermost first. -/
def placed (around : List (Scope β)) : Children β → List (List (Scope β) × Example β)
  | nil => []
  | leaf e rest => (around, e) :: rest.placed around
  | branch d members before after rest =>
    members.placed (around ++ [⟨d, before, after⟩]) ++ rest.placed around

theorem map_snd_placed (around : List (Scope β)) (c : Children β) :
    (c.placed around).map Prod.snd = c.flatten := by
  induction c generalizing around with
  | nil => rfl
  | leaf e rest ih => simp only [placed, flatten, List.map_cons, ih]
  | branch d members before after rest ihm ihr =>
    simp only [placed, flatten, List.map_append, ihm, ihr]

/-- The hooks that the walk over the tree collects are those of the groups on the path. -/
theorem schedule_eq_map_placed (around : List (Scope β)) (c : Children β) :
    c.schedule (around.flatMap Scope.before) (around.reverse.flatMap Scope.after) =
      (c.placed around).map fun entry => entry.2.within entry.1 := by
  induction c generalizing around with
  | nil => rfl
  | leaf e rest ih => simp only [schedule, placed, List.map_cons, ih, Example.within]
  | branch d members before after rest ihm ihr =>
    have hm := ihm (around ++ [⟨d, before, after⟩])
    rw [List.flatMap_append, List.reverse_append, List.flatMap_append] at hm
    simp only [List.flatMap_cons, List.flatMap_nil, List.append_nil, List.reverse_cons,
      List.reverse_nil, List.nil_append] at hm
    rw [schedule, placed, List.map_append, ihr, hm]

/-- Every example beneath has noted the descriptions of the groups around it, given those of the
groups from outside. -/
def Rooted (ancestry : List String) : Children β → Prop
  | nil => True
  | leaf e rest => e.ancestry = ancestry ∧ rest.Rooted ancestry
  | branch d members _ _ rest => members.Rooted (ancestry ++ [d]) ∧ rest.Rooted ancestry

theorem Rooted.append {ancestry : List String} {c c' : Children β} (h : c.Rooted ancestry)
    (h' : c'.Rooted ancestry) : (c.append c').Rooted ancestry := by
  induction c with
  | nil => exact h'
  | leaf e rest ih => exact ⟨h.1, ih h.2⟩
  | branch d members before after rest _ ih => exact ⟨h.1, ih h.2⟩

theorem Rooted.ancestry_eq {outer : Scope β} {around : List (Scope β)} {c : Children β}
    (h : c.Rooted (around.map Scope.description)) :
    ∀ entry ∈ c.placed (outer :: around),
      entry.2.ancestry = entry.1.tail.map Scope.description := by
  induction c generalizing around with
  | nil => exact fun _ he => absurd he List.not_mem_nil
  | leaf e rest ih => exact List.forall_mem_cons.mpr ⟨h.1, ih h.2⟩
  | branch d members before after rest ihm ihr =>
    intro entry he
    rcases List.mem_append.mp he with he | he
    · have hm : members.Rooted ((around ++ [Scope.mk d before after]).map Scope.description) := by
        rw [List.map_append]
        exact h.1
      exact ihm hm entry he
    · exact ihr h.2 entry he

end Children

namespace Group

/-- The examples beneath in order, each with the groups on its path. The group itself comes first. -/
def placed (g : Group β) : List (List (Scope β) × Example β) := g.children.placed [g.scope]

theorem map_snd_placed (g : Group β) : g.placed.map Prod.snd = g.flatten :=
  g.children.map_snd_placed _

theorem schedule_eq_map_placed (g : Group β) :
    g.schedule = g.placed.map fun entry => entry.2.within entry.1 := by
  have h := g.children.schedule_eq_map_placed [g.scope]
  simp only [List.flatMap_cons, List.flatMap_nil, List.append_nil, List.reverse_cons,
    List.reverse_nil, List.nil_append, scope] at h
  exact h

theorem ancestry_of_mem_placed {g : Group β} (h : g.children.Rooted []) :
    ∀ entry ∈ g.placed, entry.2.ancestry = entry.1.tail.map Scope.description := by
  have hr : g.children.Rooted (([] : List (Scope β)).map Scope.description) := h
  exact hr.ancestry_eq

end Group

end Exemplar

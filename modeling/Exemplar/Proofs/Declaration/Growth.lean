import Exemplar.Declaration.Builder
import Exemplar.Proofs.Tree.Shape

namespace Exemplar

variable {β : Type}

/-- No example beneath the group has a name. -/
def Group.Nameless (g : Group β) : Prop := ∀ e ∈ g.flatten, e.generatedName = none

theorem Children.flatten_append (c c' : Children β) :
    (c.append c').flatten = c.flatten ++ c'.flatten := by
  induction c with
  | nil => rfl
  | leaf e rest ih => simp only [append, flatten, ih, List.cons_append]
  | branch d members before after rest _ ih => simp only [append, flatten, ih, List.append_assoc]

namespace Group

theorem flatten_pushExample (g : Group β) (e : Example β) :
    (g.pushExample e).flatten = g.flatten ++ [e] :=
  g.children.flatten_append (.leaf e .nil)

theorem flatten_pushGroup (g sub : Group β) :
    (g.pushGroup sub).flatten = g.flatten ++ sub.flatten := by
  have h := g.children.flatten_append
    (.branch sub.description sub.children sub.before sub.after .nil)
  simp only [Children.flatten, List.append_nil] at h
  exact h

theorem Nameless.empty (description : String) : (Group.empty description : Group β).Nameless := by
  intro e he
  exact absurd he List.not_mem_nil

theorem Nameless.pushExample {g : Group β} (h : g.Nameless) (description : String)
    (ancestry : List String) (callsite : Callsite) (body : Option β) :
    (g.pushExample ⟨description, ancestry, callsite, body, none⟩).Nameless := by
  intro e he
  rw [flatten_pushExample] at he
  rcases List.mem_append.mp he with he | he
  · exact h e he
  · rw [List.mem_singleton.mp he]

theorem Nameless.pushGroup {g sub : Group β} (h : g.Nameless) (hs : sub.Nameless) :
    (g.pushGroup sub).Nameless := by
  intro e he
  rw [flatten_pushGroup] at he
  rcases List.mem_append.mp he with he | he
  · exact h e he
  · exact hs e he

end Group

namespace Builder

/-- No example that was declared has a name. -/
structure Nameless (b : Builder β) : Prop where
  root : b.root.Nameless
  opened : ∀ g ∈ b.opened, g.Nameless

theorem Nameless.start : (Builder.start : Builder β).Nameless :=
  ⟨.empty "", fun _ h => absurd h List.not_mem_nil⟩

theorem Nameless.modifyCurrent {b : Builder β} (h : b.Nameless) {f : Group β → Group β}
    (hf : ∀ g : Group β, g.Nameless → (f g).Nameless) : (b.modifyCurrent f).Nameless := by
  rcases b with ⟨root, _ | ⟨g, outer⟩⟩
  · exact ⟨hf root h.root, h.opened⟩
  · obtain ⟨hg, ho⟩ := List.forall_mem_cons.mp h.opened
    exact ⟨h.root, List.forall_mem_cons.mpr ⟨hf g hg, ho⟩⟩

theorem Nameless.closeGroup {b : Builder β} (h : b.Nameless) : b.closeGroup.Nameless := by
  rcases b with ⟨root, _ | ⟨g, outer⟩⟩
  · exact h
  · obtain ⟨hg, ho⟩ := List.forall_mem_cons.mp h.opened
    have hb : (Builder.mk root outer).Nameless := ⟨h.root, ho⟩
    exact hb.modifyCurrent fun _ hc => hc.pushGroup hg

theorem Nameless.grows {b c : Builder β} (hg : b.Grows c) (h : b.Nameless) : c.Nameless := by
  induction hg with
  | same => exact h
  | openGroup _ description ih =>
    exact ⟨ih.root, List.forall_mem_cons.mpr ⟨.empty description, ih.opened⟩⟩
  | closeGroup _ ih => exact ih.closeGroup
  | addExample _ description callsite body ih =>
    exact ih.modifyCurrent fun _ hc => hc.pushExample _ _ _ _
  | addBefore _ hook ih => exact ih.modifyCurrent fun _ hc => hc
  | addAfter _ hook ih => exact ih.modifyCurrent fun _ hc => hc

theorem closeInto_nameless {root g : Group β} {outer : List (Group β)} (hr : root.Nameless)
    (hg : g.Nameless) (ho : ∀ c ∈ outer, c.Nameless) :
    (Builder.closeInto root g outer).Nameless := by
  induction outer generalizing g with
  | nil => exact hr.pushGroup hg
  | cons c outer ih =>
    obtain ⟨hc, ho⟩ := List.forall_mem_cons.mp ho
    exact ih (hc.pushGroup hg) ho

theorem Nameless.finish {b : Builder β} (h : b.Nameless) : b.finish.Nameless := by
  rcases b with ⟨root, _ | ⟨g, outer⟩⟩
  · exact h.root
  · obtain ⟨hg, ho⟩ := List.forall_mem_cons.mp h.opened
    exact closeInto_nameless h.root hg ho

end Builder

end Exemplar

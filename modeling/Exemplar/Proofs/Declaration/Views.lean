import Exemplar.Proofs.Declaration.Growth
import Exemplar.Proofs.Declaration.Points
import Exemplar.Proofs.Tree.Placed

namespace Exemplar

variable {β ν σ : Type}

namespace Program

/-- A panic ends the declaration. -/
def panics : Program β ν → Bool
  | done => false
  | group _ members next => members.panics || next.panics
  | leaf _ _ _ next => next.panics
  | before _ next => next.panics
  | after _ next => next.panics
  | panic _ _ => true
  | attempt _ next => next.panics
  | effect _ next => next.panics

/-- The examples that the declaration registers, in order. What stands behind a panic is not reached;
what stands before it is registered, and stays so. -/
def registered : Program β ν → List (String × Callsite × Option β)
  | done => []
  | group _ members next => members.registered ++ if members.panics then [] else next.registered
  | leaf d callsite body next => (d, callsite, body) :: next.registered
  | before _ next => next.registered
  | after _ next => next.registered
  | panic _ _ => []
  | attempt part next => part.registered ++ next.registered
  | effect _ next => next.registered

theorem isSome_run_fst (perform : ν → Builder β → Thread σ → Thread σ) (p : Program β ν)
    (b : Builder β) (t : Thread σ) : (p.run perform b t).1.isSome = p.panics := by
  induction p generalizing b t with
  | done => rfl
  | group d members next ihm ihn =>
    have hm := ihm (b.openGroup d) t
    rw [run, panics, ← hm]
    rcases members.run perform (b.openGroup d) t with ⟨_ | payload, b', t'⟩
    · exact ihn b'.closeGroup t'
    · rfl
  | leaf d callsite body next ih => exact ih _ t
  | before hook next ih => exact ih _ t
  | after hook next ih => exact ih _ t
  | panic payload site => rfl
  | attempt part next ihp ihn => exact ihn _ _
  | effect op next ih => exact ih b _

end Program

/-- What was said about an example when it was registered. -/
def Example.declared (e : Example β) : String × Callsite × Option β :=
  (e.description, e.callsite, e.body)

namespace Builder

/-- The examples declared so far, in the order in which the finished tree has them. -/
def examples (b : Builder β) : List (Example β) := b.finish.flatten

theorem flatten_closeInto (root g : Group β) (outer : List (Group β)) :
    (closeInto root g outer).flatten =
      root.flatten ++ (g :: outer).reverse.flatMap Group.flatten := by
  induction outer generalizing g with
  | nil => simp [closeInto, Group.flatten_pushGroup]
  | cons c outer ih =>
    rw [closeInto, ih (c.pushGroup g)]
    simp [Group.flatten_pushGroup]

/-- The examples of the root come first, then those of the open groups from the outermost on. -/
theorem examples_eq (b : Builder β) :
    b.examples = b.root.flatten ++ b.opened.reverse.flatMap Group.flatten := by
  rcases b with ⟨root, _ | ⟨g, outer⟩⟩
  · exact (List.append_nil _).symm
  · exact flatten_closeInto root g outer

theorem examples_openGroup (b : Builder β) (d : String) :
    (b.openGroup d).examples = b.examples := by
  have hempty : (Group.empty d : Group β).flatten = [] := rfl
  simp [examples_eq, openGroup, hempty]

/-- Closing a group is what the end of the declaration would do anyway. -/
theorem finish_closeGroup (b : Builder β) : b.closeGroup.finish = b.finish := by
  rcases b with ⟨root, _ | ⟨g, _ | ⟨c, outer⟩⟩⟩ <;> rfl

theorem examples_closeGroup (b : Builder β) : b.closeGroup.examples = b.examples :=
  congrArg Group.flatten b.finish_closeGroup

/-- The end of the current group is the end of the whole tree so far. -/
theorem examples_modifyCurrent (b : Builder β) (f : Group β → Group β) (more : List (Example β))
    (hf : ∀ g, (f g).flatten = g.flatten ++ more) :
    (b.modifyCurrent f).examples = b.examples ++ more := by
  rcases b with ⟨root, _ | ⟨g, outer⟩⟩
  · exact hf root
  · simp [examples_eq, modifyCurrent, hf]

theorem examples_addExample (b : Builder β) (d : String) (callsite : Callsite) (body : Option β) :
    (b.addExample d callsite body).examples =
      b.examples ++ [⟨d, b.ancestry, callsite, body, none⟩] :=
  b.examples_modifyCurrent _ _ fun g => g.flatten_pushExample _

theorem examples_addBefore (b : Builder β) (hook : β) :
    (b.addBefore hook).examples = b.examples := by
  have h := b.examples_modifyCurrent (·.pushBefore hook) [] fun _ => (List.append_nil _).symm
  rwa [List.append_nil] at h

theorem examples_addAfter (b : Builder β) (hook : β) :
    (b.addAfter hook).examples = b.examples := by
  have h := b.examples_modifyCurrent (·.pushAfter hook) [] fun _ => (List.append_nil _).symm
  rwa [List.append_nil] at h

end Builder

namespace Program

/-- Running a declaration puts what it registers behind the examples that are there. -/
theorem map_declared_run (perform : ν → Builder β → Thread σ → Thread σ) (p : Program β ν)
    (b : Builder β) (t : Thread σ) :
    (p.run perform b t).2.1.examples.map Example.declared =
      b.examples.map Example.declared ++ p.registered := by
  induction p generalizing b t with
  | done => exact (List.append_nil _).symm
  | group d members next ihm ihn =>
    have hm := ihm (b.openGroup d) t
    have hp := members.isSome_run_fst perform (b.openGroup d) t
    rw [Builder.examples_openGroup] at hm
    rw [run, registered, ← hp]
    rcases hr : members.run perform (b.openGroup d) t with ⟨_ | payload, b', t'⟩
    all_goals rw [hr] at hm
    · have hn := ihn b'.closeGroup t'
      rw [Builder.examples_closeGroup, hm, List.append_assoc] at hn
      exact hn
    · -- the rest of the declaration is not reached
      rw [hm]
      simp
  | leaf d callsite body next ih =>
    rw [run, ih, Builder.examples_addExample, List.map_append, List.append_assoc]
    rfl
  | before hook next ih => rw [run, ih, Builder.examples_addBefore, registered]
  | after hook next ih => rw [run, ih, Builder.examples_addAfter, registered]
  | panic payload site => exact (List.append_nil _).symm
  | attempt part next ihp ihn => rw [run, ihn, ihp, registered, List.append_assoc]
  | effect op next ih => rw [run, ih, registered]

end Program

namespace Builder

/-- Each open group stands at the end of the path of those around it. -/
def OpenedRooted : List (Group β) → Prop
  | [] => True
  | g :: outer =>
    g.children.Rooted ((g :: outer).map Group.description).reverse ∧ OpenedRooted outer

/-- Every example has noted the descriptions of the groups in which it stands or will stand. -/
structure Rooted (b : Builder β) : Prop where
  root : b.root.children.Rooted []
  opened : OpenedRooted b.opened

theorem Rooted.start : (Builder.start : Builder β).Rooted := ⟨trivial, trivial⟩

/-- More children at the end of the path keep the others where they are. -/
theorem Rooted.modifyCurrent {b : Builder β} (h : b.Rooted) {f : Group β → Group β}
    (hd : ∀ g, (f g).description = g.description)
    (hf : ∀ g : Group β, g.children.Rooted b.ancestry → (f g).children.Rooted b.ancestry) :
    (b.modifyCurrent f).Rooted := by
  rcases b with ⟨root, _ | ⟨g, outer⟩⟩
  · exact ⟨hf root h.root, trivial⟩
  · obtain ⟨hg, ho⟩ := h.opened
    refine ⟨h.root, ?_, ho⟩
    rw [List.map_cons, hd, ← List.map_cons]
    exact hf g hg

theorem Rooted.closeGroup {b : Builder β} (h : b.Rooted) : b.closeGroup.Rooted := by
  rcases b with ⟨root, _ | ⟨g, outer⟩⟩
  · exact h
  · obtain ⟨hg, ho⟩ := h.opened
    have hb : (Builder.mk root outer).Rooted := ⟨h.root, ho⟩
    refine hb.modifyCurrent (f := (·.pushGroup g)) (fun _ => rfl) fun c hc => hc.append ?_
    refine ⟨?_, trivial⟩
    rw [List.map_cons, List.reverse_cons] at hg
    exact hg

theorem Rooted.grows {b c : Builder β} (hg : b.Grows c) (h : b.Rooted) : c.Rooted := by
  induction hg with
  | same => exact h
  | openGroup _ description ih => exact ⟨ih.root, trivial, ih.opened⟩
  | closeGroup _ ih => exact ih.closeGroup
  | addExample _ description callsite body ih =>
    exact ih.modifyCurrent (fun _ => rfl) fun _ hc => hc.append ⟨rfl, trivial⟩
  | addBefore _ hook ih => exact ih.modifyCurrent (fun _ => rfl) fun _ hc => hc
  | addAfter _ hook ih => exact ih.modifyCurrent (fun _ => rfl) fun _ hc => hc

theorem Rooted.finish {b : Builder β} (h : b.Rooted) : b.finish.children.Rooted [] := by
  -- closing a group does not change the finished tree, so all of them may be closed first
  induction hn : b.opened.length generalizing b with
  | zero =>
    have hnil : b.opened = [] := List.eq_nil_of_length_eq_zero hn
    rw [Builder.finish, hnil]
    exact h.root
  | succ n ih =>
    rw [← finish_closeGroup]
    apply ih h.closeGroup
    rw [length_opened_closeGroup, hn, Nat.add_sub_cancel]

end Builder

namespace Program

/-- Whatever panics a declaration swallows, the groups that are open at any point are those that are
being declared and those that a panic has left, and the views of the finished tree agree: it lists the
examples in the order in which they were registered, each has noted the groups on its path, the
schedule gives it the hooks of just these groups, and the number of examples is that of either list. -/
theorem views_finish_run (perform : ν → Builder β → Thread σ → Thread σ) (p : Program β ν)
    (t : Thread σ) :
    let tree := (p.run perform .start t).2.1.finish
    (∃ n, Point.Reaches perform (.start p t) (.ended [] n (p.run perform .start t))) ∧
      (∀ m, Point.Reaches perform (.start p t) m →
        m.builder.opened.length = m.executing + m.unwound ∧
          (m.closes → m.builder.opened ≠ [])) ∧
      tree.flatten.map Example.declared = p.registered ∧
      tree.placed.map Prod.snd = tree.flatten ∧
      (∀ entry ∈ tree.placed, entry.2.ancestry = entry.1.tail.map Scope.description) ∧
      tree.schedule = tree.placed.map (fun entry => entry.2.within entry.1) ∧
      tree.exampleCount = tree.flatten.length ∧ tree.exampleCount = tree.schedule.length := by
  intro tree
  have hrooted : tree.children.Rooted [] :=
    (Builder.Rooted.start.grows (p.run_grows perform .same t)).finish
  refine ⟨Point.reaches_ended perform p [] 0 .start t, ?_, ?_, tree.map_snd_placed, ?_,
    tree.schedule_eq_map_placed, tree.exampleCount_eq_length, tree.length_schedule.symm⟩
  · intro m hm
    have hstart : (Point.start p t).Balanced := rfl
    have hbalanced := hstart.reaches hm
    exact ⟨hbalanced, hbalanced.opened_ne_nil⟩
  · exact p.map_declared_run perform .start t
  · exact Group.ancestry_of_mem_placed hrooted

/-- The panic leaves `h` open. So `y` is declared inside `h`, the end of `g` closes `h`, and `z` is
declared inside `g`, which only the end of the declaration closes. -/
theorem views_finish_run_swallowed :
    let p : Program Nat Unit := .group "g" (.before 0 (.attempt (.group "h" (.before 1
      (.leaf "x" ⟨"spec", 1⟩ (some 2) (.panic .nonText none))) .done)
        (.leaf "y" ⟨"spec", 2⟩ none .done))) (.leaf "z" ⟨"spec", 3⟩ none .done)
    let tree := (p.run (fun _ _ t => t) .start (Thread.fresh ())).2.1.finish
    tree.flatten.map Example.chain = [["g", "h", "x"], ["g", "h", "y"], ["g", "z"]] ∧
      tree.flatten.map Example.declared =
        [("x", ⟨"spec", 1⟩, some 2), ("y", ⟨"spec", 2⟩, none), ("z", ⟨"spec", 3⟩, none)] ∧
      tree.schedule.map Scheduled.before = [[0, 1], [0, 1], [0]] ∧ tree.exampleCount = 3 := by
  intro p tree
  obtain ⟨-, -, hregistered, -, -, hschedule, hcount, -⟩ :=
    views_finish_run (fun _ _ t => t) p (Thread.fresh ())
  refine ⟨rfl, hregistered, ?_, hcount⟩
  rw [hschedule]
  rfl

end Program

end Exemplar

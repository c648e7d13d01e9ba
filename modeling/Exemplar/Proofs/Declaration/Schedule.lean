import Exemplar.Declaration.Program
import Exemplar.Proofs.Tree.Shape

/-! A declaration says by itself which examples there are and which hooks run around each: the hooks
of a group are those that stand anywhere in it, and an example has the hooks of all groups around it.
The builder, which works through the declaration with a stack of open groups, and the walk over the
finished tree come to the same list. -/

namespace Exemplar

variable {β ν σ : Type}

/-- What a group contributes to the examples beneath it. -/
structure Scope (β : Type) where
  description : String
  before : List β
  after : List β

/-- An example inside groups that are listed from the outermost on, with the group of the whole spec
apart. -/
def Scope.entry (root : Scope β) (around : List (Scope β)) (description : String)
    (callsite : Callsite) (body : Option β) : Scheduled β where
  subject := ⟨description, around.map Scope.description, callsite, body, none⟩
  before := root.before ++ around.flatMap Scope.before
  after := around.reverse.flatMap Scope.after ++ root.after

namespace Program

/-- No part of the declaration panics. -/
def PanicFree : Program β ν → Prop
  | done => True
  | group _ members next => members.PanicFree ∧ next.PanicFree
  | leaf _ _ _ next => next.PanicFree
  | before _ next => next.PanicFree
  | after _ next => next.PanicFree
  | panic _ _ => False
  | attempt part next => part.PanicFree ∧ next.PanicFree
  | effect _ next => next.PanicFree

/-- The hooks before each example that the declaration adds to the group in which it stands, wherever
they stand among its examples and nested groups. -/
def ownBefore : Program β ν → List β
  | done => []
  | group _ _ next => next.ownBefore
  | leaf _ _ _ next => next.ownBefore
  | before hook next => hook :: next.ownBefore
  | after _ next => next.ownBefore
  | panic _ _ => []
  | attempt part next => part.ownBefore ++ next.ownBefore
  | effect _ next => next.ownBefore

/-- The hooks after each example that the declaration adds to the group in which it stands. -/
def ownAfter : Program β ν → List β
  | done => []
  | group _ _ next => next.ownAfter
  | leaf _ _ _ next => next.ownAfter
  | before _ next => next.ownAfter
  | after hook next => hook :: next.ownAfter
  | panic _ _ => []
  | attempt part next => part.ownAfter ++ next.ownAfter
  | effect _ next => next.ownAfter

/-- The group of this description that the declaration fills. -/
def scope (description : String) (members : Program β ν) : Scope β :=
  ⟨description, members.ownBefore, members.ownAfter⟩

/-- The examples that the declaration makes inside the groups `around`, in the order in which it
declares them. -/
def entries (root : Scope β) : List (Scope β) → Program β ν → List (Scheduled β)
  | _, done => []
  | around, group d members next =>
    members.entries root (around ++ [members.scope d]) ++ next.entries root around
  | around, leaf d callsite body next =>
    root.entry around d callsite body :: next.entries root around
  | around, before _ next => next.entries root around
  | around, after _ next => next.entries root around
  | _, panic _ _ => []
  | around, attempt part next => part.entries root around ++ next.entries root around
  | around, effect _ next => next.entries root around

/-- The schedule that the declaration of a whole spec describes. -/
def schedule (p : Program β ν) : List (Scheduled β) := p.entries (p.scope "") []

/-- What the declaration adds to the children of the group in which it stands. -/
def children : List String → Program β ν → Children β
  | _, done => .nil
  | ancestry, group d members next =>
    .branch d (members.children (ancestry ++ [d])) members.ownBefore members.ownAfter
      (next.children ancestry)
  | ancestry, leaf d callsite body next =>
    .leaf ⟨d, ancestry, callsite, body, none⟩ (next.children ancestry)
  | ancestry, before _ next => next.children ancestry
  | ancestry, after _ next => next.children ancestry
  | _, panic _ _ => .nil
  | ancestry, attempt part next => (part.children ancestry).append (next.children ancestry)
  | ancestry, effect _ next => next.children ancestry

/-- Walking over the children with the hooks of the groups around gives the entries. -/
theorem schedule_children (root : Scope β) (p : Program β ν) (around : List (Scope β)) :
    (p.children (around.map Scope.description)).schedule
      (root.before ++ around.flatMap Scope.before)
      (around.reverse.flatMap Scope.after ++ root.after) = p.entries root around := by
  induction p generalizing around with
  | done => rfl
  | group d members next ihm ihn =>
    have hm := ihm (around ++ [members.scope d])
    simp only [List.map_append, List.map_cons, List.map_nil, List.flatMap_append,
      List.flatMap_cons, List.flatMap_nil, List.append_nil, List.reverse_append,
      List.reverse_cons, List.reverse_nil, List.nil_append, List.append_assoc, scope] at hm
    rw [children, Children.schedule, entries, ihn around]
    simp only [List.append_assoc, scope]
    rw [hm]
  | leaf d callsite body next ih =>
    rw [children, Children.schedule, entries, ih around]
    rfl
  | before hook next ih => exact ih around
  | after hook next ih => exact ih around
  | panic payload site => rfl
  | attempt part next ihp ihn =>
    rw [children, Children.schedule_append, entries, ihp around, ihn around]
  | effect op next ih => exact ih around

end Program

/-- The group with more children and more hooks behind those it has. -/
def Group.extend (g : Group β) (children : Children β) (before after : List β) : Group β :=
  ⟨g.description, g.children.append children, g.before ++ before, g.after ++ after⟩

theorem Group.extend_extend (g : Group β) (c c' : Children β) (before before' after after' : List β) :
    (g.extend c before after).extend c' before' after' =
      g.extend (c.append c') (before ++ before') (after ++ after') := by
  simp only [extend, Children.append_assoc, List.append_assoc]

namespace Builder

/-- The builder whose current group has more children and more hooks. -/
def extend (b : Builder β) (children : Children β) (before after : List β) : Builder β :=
  b.modifyCurrent (·.extend children before after)

theorem extend_nil (b : Builder β) : b.extend .nil [] [] = b := by
  rcases b with ⟨root, _ | ⟨g, outer⟩⟩ <;> simp [extend, modifyCurrent, Group.extend]

theorem extend_extend (b : Builder β) (c c' : Children β) (before before' after after' : List β) :
    (b.extend c before after).extend c' before' after' =
      b.extend (c.append c') (before ++ before') (after ++ after') := by
  rcases b with ⟨root, _ | ⟨g, outer⟩⟩ <;>
    simp only [extend, modifyCurrent, Group.extend_extend]

theorem ancestry_extend (b : Builder β) (c : Children β) (before after : List β) :
    (b.extend c before after).ancestry = b.ancestry := by
  rcases b with ⟨root, _ | ⟨g, outer⟩⟩ <;>
    simp only [extend, modifyCurrent, ancestry, List.map_nil, List.map_cons, Group.extend]

theorem ancestry_openGroup (b : Builder β) (d : String) :
    (b.openGroup d).ancestry = b.ancestry ++ [d] := by
  simp only [ancestry, openGroup, List.map_cons, List.reverse_cons, Group.empty]

theorem addExample_eq_extend (b : Builder β) (d : String) (callsite : Callsite) (body : Option β) :
    b.addExample d callsite body =
      b.extend (.leaf ⟨d, b.ancestry, callsite, body, none⟩ .nil) [] [] := by
  simp only [addExample, extend, Group.pushExample, Group.extend, List.append_nil]

theorem addBefore_eq_extend (b : Builder β) (hook : β) :
    b.addBefore hook = b.extend .nil [hook] [] := by
  simp only [addBefore, extend, Group.pushBefore, Group.extend, List.append_nil,
    Children.append_nil]

theorem addAfter_eq_extend (b : Builder β) (hook : β) :
    b.addAfter hook = b.extend .nil [] [hook] := by
  simp only [addAfter, extend, Group.pushAfter, Group.extend, List.append_nil,
    Children.append_nil]

/-- A group that is opened, filled and closed becomes the last child of the group around it. -/
theorem closeGroup_extend_openGroup (b : Builder β) (d : String) (c : Children β)
    (before after : List β) :
    ((b.openGroup d).extend c before after).closeGroup =
      b.extend (.branch d c before after .nil) [] [] := by
  rcases b with ⟨root, _ | ⟨g, outer⟩⟩ <;>
    simp [openGroup, extend, modifyCurrent, closeGroup, Group.extend, Group.empty,
      Group.pushGroup, Children.append]

end Builder

namespace Program

/-- A declaration that adds children and hooks to any builder adds them behind those that were added
before it. -/
theorem run_extend {perform : ν → Builder β → Thread σ → Thread σ} {p : Program β ν}
    (h : ∀ b t, ∃ t', p.run perform b t =
      (none, b.extend (p.children b.ancestry) p.ownBefore p.ownAfter, t'))
    (b : Builder β) (c : Children β) (before after : List β) (t : Thread σ) :
    ∃ t', p.run perform (b.extend c before after) t =
      (none, b.extend (c.append (p.children b.ancestry)) (before ++ p.ownBefore)
        (after ++ p.ownAfter), t') := by
  obtain ⟨t', ht⟩ := h (b.extend c before after) t
  rw [Builder.ancestry_extend, Builder.extend_extend] at ht
  exact ⟨t', ht⟩

/-- Running a declaration that does not panic adds its children and hooks to the current group of
whatever builder it finds, and leaves the same groups open. -/
theorem run_eq_extend (perform : ν → Builder β → Thread σ → Thread σ) {p : Program β ν}
    (calm : p.PanicFree) (b : Builder β) (t : Thread σ) :
    ∃ t', p.run perform b t =
      (none, b.extend (p.children b.ancestry) p.ownBefore p.ownAfter, t') := by
  induction p generalizing b t with
  | done => exact ⟨t, by rw [run, children, ownBefore, ownAfter, Builder.extend_nil]⟩
  | group d members next ihm ihn =>
    obtain ⟨tm, hm⟩ := ihm calm.1 (b.openGroup d) t
    rw [Builder.ancestry_openGroup] at hm
    obtain ⟨tn, hn⟩ := run_extend (ihn calm.2) b (.branch d (members.children (b.ancestry ++ [d]))
      members.ownBefore members.ownAfter .nil) [] [] tm
    refine ⟨tn, ?_⟩
    simp only [run, hm, Builder.closeGroup_extend_openGroup, hn]
    rfl
  | leaf d callsite body next ih =>
    obtain ⟨tn, hn⟩ := run_extend (ih calm) b (.leaf ⟨d, b.ancestry, callsite, body, none⟩ .nil) [] [] t
    refine ⟨tn, ?_⟩
    rw [run, Builder.addExample_eq_extend, hn]
    rfl
  | before hook next ih =>
    obtain ⟨tn, hn⟩ := run_extend (ih calm) b .nil [hook] [] t
    refine ⟨tn, ?_⟩
    rw [run, Builder.addBefore_eq_extend, hn]
    rfl
  | after hook next ih =>
    obtain ⟨tn, hn⟩ := run_extend (ih calm) b .nil [] [hook] t
    refine ⟨tn, ?_⟩
    rw [run, Builder.addAfter_eq_extend, hn]
    rfl
  | panic payload site => exact calm.elim
  | attempt part next ihp ihn =>
    obtain ⟨tp, hp⟩ := ihp calm.1 b t
    obtain ⟨tn, hn⟩ := run_extend (ihn calm.2) b (part.children b.ancestry) part.ownBefore
      part.ownAfter tp
    refine ⟨tn, ?_⟩
    simp only [run, hp, hn]
    rfl
  | effect op next ih => exact ih calm b (perform op b t)

/-- The builder and the walk over its tree implement the declaration: run from the start without a
panic, it yields a tree whose schedule is the one that the declaration describes. -/
theorem schedule_finish_run (perform : ν → Builder β → Thread σ → Thread σ) {p : Program β ν}
    (calm : p.PanicFree) (t : Thread σ) :
    (p.run perform .start t).1 = none ∧
      (p.run perform .start t).2.1.finish.schedule = p.schedule := by
  obtain ⟨t', h⟩ := run_eq_extend perform calm .start t
  refine ⟨by rw [h], ?_⟩
  have hs := schedule_children (p.scope "") p []
  simp only [List.map_nil, List.flatMap_nil, List.append_nil, List.reverse_nil,
    List.nil_append] at hs
  rw [h, schedule, ← hs]
  rfl

/-- Hooks that stand behind an example count for it, those of a nested group do not. -/
theorem schedule_finish_run_late_hooks :
    let p : Program Nat Unit :=
      .leaf "a" ⟨"spec", 1⟩ (some 0) (.group "g" (.leaf "b" ⟨"spec", 2⟩ none (.before 3 (.group "h"
        (.after 6 (.leaf "c" ⟨"spec", 3⟩ (some 7) .done)) (.after 5 .done)))) (.after 4 (.before 1
          (.before 2 .done))))
    p.PanicFree ∧
      (p.run (fun _ _ t => t) .start (Thread.fresh ())).2.1.finish.schedule.map
          (fun s => (s.subject.chain, s.before, s.after)) =
        [(["a"], [1, 2], [4]), (["g", "b"], [1, 2, 3], [5, 4]),
          (["g", "h", "c"], [1, 2, 3], [6, 5, 4])] := by
  intro p
  have calm : p.PanicFree := by simp [p, PanicFree]
  refine ⟨calm, ?_⟩
  rw [(schedule_finish_run _ calm _).2]
  rfl

end Program

end Exemplar

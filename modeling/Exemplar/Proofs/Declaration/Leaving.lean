import Exemplar.Proofs.Declaration.Views

/-! Which group is current where. A group that comes to its end is closed, and the group around it is
current again. A group that a panic leaves stays open. If the panic is swallowed, what follows is declared
inside that group, and each group around it that comes to its end closes another one than its own. -/

namespace Exemplar

variable {β ν σ : Type}

namespace Builder

/-- The builder with more groups open inside its current one, the innermost first. -/
def openAll (b : Builder β) (left : List (Group β)) : Builder β := { b with opened := left ++ b.opened }

/-- The second builder comes from the first by declarations in its current group, inside which groups of
these descriptions are left open, the innermost first. -/
def Carries (b : Builder β) (left : List String) (c : Builder β) : Prop :=
  ∃ children before after groups,
    c = (b.extend children before after).openAll groups ∧ groups.map Group.description = left

/-- The same group is current in both builders, and the second one has more declared in it. -/
def Resumes (b c : Builder β) : Prop := ∃ children before after, c = b.extend children before after

theorem resumes_iff_carries {b c : Builder β} : b.Resumes c ↔ b.Carries [] c := by
  constructor
  · rintro ⟨children, before, after, rfl⟩
    exact ⟨children, before, after, [], rfl, rfl⟩
  · rintro ⟨children, before, after, groups, rfl, hgroups⟩
    obtain rfl := List.map_eq_nil_iff.mp hgroups
    exact ⟨children, before, after, rfl⟩

theorem openAll_openAll (b : Builder β) (left more : List (Group β)) :
    (b.openAll left).openAll more = b.openAll (more ++ left) := by
  simp only [openAll, List.append_assoc]

/-- What is declared while groups are left open goes to the innermost of them. -/
theorem extend_openAll_cons (b : Builder β) (g : Group β) (left : List (Group β))
    (children : Children β) (before after : List β) :
    (b.openAll (g :: left)).extend children before after =
      b.openAll (g.extend children before after :: left) := rfl

namespace Carries

theorem refl (b : Builder β) : b.Carries [] b :=
  resumes_iff_carries.mp ⟨.nil, [], [], b.extend_nil.symm⟩

theorem extend (b : Builder β) (children : Children β) (before after : List β) :
    b.Carries [] (b.extend children before after) :=
  resumes_iff_carries.mp ⟨children, before, after, rfl⟩

theorem openGroup (b : Builder β) (d : String) : b.Carries [d] (b.openGroup d) :=
  ⟨.nil, [], [], [.empty d], by rw [extend_nil]; rfl, rfl⟩

theorem trans {b c e : Builder β} {left more : List String} (h : b.Carries left c)
    (h' : c.Carries more e) : b.Carries (more ++ left) e := by
  obtain ⟨children, before, after, groups, rfl, rfl⟩ := h
  obtain ⟨children', before', after', groups', rfl, rfl⟩ := h'
  rcases groups with _ | ⟨g, groups⟩
  · -- nothing is left open, and all is declared in the same group
    refine ⟨children.append children', before ++ before', after ++ after', groups', ?_, by simp⟩
    rw [← extend_extend]
    rfl
  · refine ⟨children, before, after, groups' ++ g.extend children' before' after' :: groups, ?_, ?_⟩
    · rw [extend_openAll_cons, openAll_openAll]
    · rw [List.map_append]
      rfl

/-- What is declared in the current group leaves no more groups open. -/
theorem of_extend {b c e : Builder β} {left : List String} {children : Children β}
    {before after : List β} (hc : c = b.extend children before after) (h : c.Carries left e) :
    b.Carries left e := by
  subst hc
  have hboth := (extend b children before after).trans h
  rwa [List.append_nil] at hboth

/-- Closing a group closes the innermost one that is left open. -/
theorem closeGroup {b c : Builder β} {d : String} {left : List String} (h : b.Carries (d :: left) c) :
    b.Carries left c.closeGroup := by
  obtain ⟨children, before, after, groups, rfl, hgroups⟩ := h
  rcases groups with _ | ⟨g, _ | ⟨outer, groups⟩⟩
  · cases hgroups
  · obtain ⟨-, rfl⟩ := List.cons.inj hgroups
    have hclose : ((b.extend children before after).openAll [g]).closeGroup =
        (b.extend children before after).extend
          (.branch g.description g.children g.before g.after .nil) [] [] := by
      rcases b with ⟨root, _ | ⟨current, rest⟩⟩ <;>
        simp [openAll, Builder.closeGroup, Builder.extend, modifyCurrent, Group.extend, Group.pushGroup]
    rw [hclose, extend_extend]
    exact extend b _ _ _
  · obtain ⟨-, rfl⟩ := List.cons.inj hgroups
    exact ⟨children, before, after, outer.pushGroup g :: groups, rfl, rfl⟩

theorem ancestry {b c : Builder β} {left : List String} (h : b.Carries left c) :
    c.ancestry = b.ancestry ++ left.reverse := by
  obtain ⟨children, before, after, groups, rfl, rfl⟩ := h
  rw [← b.ancestry_extend children before after]
  simp only [Builder.ancestry, openAll, List.map_append, List.reverse_append]

/-- The descriptions of the groups that are left open can be read off the builders. -/
theorem unique {b c : Builder β} {left left' : List String} (h : b.Carries left c)
    (h' : b.Carries left' c) : left = left' := by
  have hancestry := h.ancestry.symm.trans h'.ancestry
  exact List.reverse_inj.mp (List.append_cancel_left hancestry)

end Carries

end Builder

namespace Program

/-- The groups that panics leave open, the innermost first. A group that comes to its end closes the
innermost of those that were left open inside it, and itself only if there are none. -/
def left : Program β ν → List String
  | done => []
  | group d members next =>
    if members.panics then members.left ++ [d] else next.left ++ (members.left ++ [d]).tail
  | leaf _ _ _ next => next.left
  | before _ next => next.left
  | after _ next => next.left
  | panic _ _ => []
  | attempt part next => next.left ++ part.left
  | effect _ next => next.left

/-- Whatever panics, the groups that are left open lie inside the group that was current before. -/
theorem carries_run (perform : ν → Builder β → Thread σ → Thread σ) (p : Program β ν) (b : Builder β)
    (t : Thread σ) : b.Carries p.left (p.run perform b t).2.1 := by
  induction p generalizing b t with
  | done => exact .refl b
  | group d members next ihm ihn =>
    have hm := (Builder.Carries.openGroup b d).trans (ihm (b.openGroup d) t)
    have hp := members.isSome_run_fst perform (b.openGroup d) t
    rw [run, left, ← hp]
    rcases hr : members.run perform (b.openGroup d) t with ⟨_ | payload, c, t'⟩
    all_goals rw [hr] at hm
    · -- the group comes to its end
      have hcons : members.left ++ [d] =
          (members.left ++ [d]).head (by simp) :: (members.left ++ [d]).tail :=
        (List.cons_head_tail _).symm
      rw [hcons] at hm
      exact hm.closeGroup.trans (ihn c.closeGroup t')
    · -- it stays open, outside of those that its members left open
      exact hm
  | leaf d callsite body next ih =>
    exact .of_extend (b.addExample_eq_extend d callsite body) (ih _ t)
  | before hook next ih => exact .of_extend (b.addBefore_eq_extend hook) (ih _ t)
  | after hook next ih => exact .of_extend (b.addAfter_eq_extend hook) (ih _ t)
  | panic payload site => exact .refl b
  | attempt part next ihp ihn => exact (ihp b t).trans (ihn _ _)
  | effect op next ih => exact ih b _

/-- A panic leaves one of the groups. -/
def unwinds : Program β ν → Bool
  | done => false
  | group _ members next => members.panics || members.unwinds || next.unwinds
  | leaf _ _ _ next => next.unwinds
  | before _ next => next.unwinds
  | after _ next => next.unwinds
  | panic _ _ => false
  | attempt part next => part.unwinds || next.unwinds
  | effect _ next => next.unwinds

/-- A panic leaves one of the groups and is swallowed further out. -/
def leaks : Program β ν → Bool
  | done => false
  | group _ members next => members.leaks || !members.panics && next.leaks
  | leaf _ _ _ next => next.leaks
  | before _ next => next.leaks
  | after _ next => next.leaks
  | panic _ _ => false
  | attempt part next => part.unwinds || next.leaks
  | effect _ next => next.leaks

/-- In a declaration that does not end by a panic, those that leave a group are swallowed. -/
theorem leaks_eq_unwinds {p : Program β ν} (h : p.panics = false) : p.leaks = p.unwinds := by
  induction p with
  | done => rfl
  | group d members next ihm ihn =>
    obtain ⟨hm, hn⟩ := Bool.or_eq_false_iff.mp h
    rw [leaks, unwinds, hm, ihm hm, ihn hn]
    rfl
  | leaf d callsite body next ih => exact ih h
  | before hook next ih => exact ih h
  | after hook next ih => exact ih h
  | panic payload site => cases h
  | attempt part next _ ihn => rw [leaks, unwinds, ihn h]
  | effect op next ih => exact ih h

theorem leaks_of_unwinds {p : Program β ν} (h : p.unwinds = false) : p.leaks = false := by
  induction p with
  | done => rfl
  | group d members next ihm ihn =>
    obtain ⟨hm, hn⟩ := Bool.or_eq_false_iff.mp h
    rw [leaks, ihm (Bool.or_eq_false_iff.mp hm).2, ihn hn, Bool.and_false, Bool.or_false]
  | leaf d callsite body next ih => exact ih h
  | before hook next ih => exact ih h
  | after hook next ih => exact ih h
  | panic payload site => rfl
  | attempt part next _ ihn =>
    obtain ⟨hp, hn⟩ := Bool.or_eq_false_iff.mp h
    rw [leaks, hp, ihn hn, Bool.or_false]
  | effect op next ih => exact ih h

theorem left_eq_nil_iff (p : Program β ν) : p.left = [] ↔ p.unwinds = false := by
  induction p with
  | done => simp [left, unwinds]
  | group d members next ihm ihn =>
    rw [left, unwinds]
    split
    · next hp => simp [hp]
    · next hp =>
      -- the end of the group closes the group itself if its members have left none open
      have htail : (members.left ++ [d]).tail = [] ↔ members.left = [] := by
        rcases members.left with _ | ⟨e, left⟩ <;> simp
      rw [List.append_eq_nil_iff, htail, ihm, ihn]
      simp only [Bool.not_eq_true] at hp
      simp [hp, and_comm]
  | leaf d callsite body next ih => exact ih
  | before hook next ih => exact ih
  | after hook next ih => exact ih
  | panic payload site => simp [left, unwinds]
  | attempt part next ihp ihn =>
    rw [left, unwinds, List.append_eq_nil_iff, ihp, ihn, Bool.or_eq_false_iff, and_comm]
  | effect op next ih => exact ih

theorem resumes_run_iff (perform : ν → Builder β → Thread σ → Thread σ) (p : Program β ν)
    (b : Builder β) (t : Thread σ) : b.Resumes (p.run perform b t).2.1 ↔ p.unwinds = false := by
  have hcarries := carries_run perform p b t
  rw [Builder.resumes_iff_carries, ← left_eq_nil_iff]
  exact ⟨fun h => hcarries.unique h, fun h => h ▸ hcarries⟩

/-- Whenever a group has come to its end, and whenever a panic has been swallowed, the group is current
that was current before, and what follows is declared in it. -/
def Restores (perform : ν → Builder β → Thread σ → Thread σ) :
    Program β ν → Builder β → Thread σ → Prop
  | done, _, _ => True
  | group d members next, b, t =>
    members.Restores perform (b.openGroup d) t ∧
      match members.run perform (b.openGroup d) t with
      | (none, c, t) => b.Resumes c.closeGroup ∧ next.Restores perform c.closeGroup t
      | (some _, _, _) => True
  | leaf d callsite body next, b, t => next.Restores perform (b.addExample d callsite body) t
  | before hook next, b, t => next.Restores perform (b.addBefore hook) t
  | after hook next, b, t => next.Restores perform (b.addAfter hook) t
  | panic _ _, _, _ => True
  | attempt part next, b, t =>
    part.Restores perform b t ∧
      let (_, c, t) := part.run perform b t
      b.Resumes c ∧ next.Restores perform c t
  | effect op next, b, t => next.Restores perform b (perform op b t)

theorem resumes_closeGroup_iff {perform : ν → Builder β → Thread σ → Thread σ} {d : String}
    {members : Program β ν} {b c : Builder β} {t t' : Thread σ}
    (hr : members.run perform (b.openGroup d) t = (none, c, t')) :
    b.Resumes c.closeGroup ↔ members.unwinds = false := by
  have hrun : (group d members done).run perform b t = (none, c.closeGroup, t') := by
    rw [run, hr]
    rfl
  have hpanics : members.panics = false := by
    rw [← members.isSome_run_fst perform (b.openGroup d) t, hr]
    rfl
  have h := resumes_run_iff perform (group d members done) b t
  rw [hrun] at h
  simpa [unwinds, hpanics] using h

theorem restores_iff_leaks (perform : ν → Builder β → Thread σ → Thread σ) (p : Program β ν)
    (b : Builder β) (t : Thread σ) : p.Restores perform b t ↔ p.leaks = false := by
  induction p generalizing b t with
  | done => simp [Restores, leaks]
  | group d members next ihm ihn =>
    have hp := members.isSome_run_fst perform (b.openGroup d) t
    rw [Restores, leaks, ihm, ← hp]
    rcases hr : members.run perform (b.openGroup d) t with ⟨_ | payload, c, t'⟩
    · rw [hr] at hp
      have hsame : members.leaks = members.unwinds := leaks_eq_unwinds hp.symm
      simp only [resumes_closeGroup_iff hr, ihn, hsame]
      simp
    · -- the panic goes on, and nothing that follows is declared
      simp
  | leaf d callsite body next ih => exact ih _ t
  | before hook next ih => exact ih _ t
  | after hook next ih => exact ih _ t
  | panic payload site => simp [Restores, leaks]
  | attempt part next ihp ihn =>
    simp only [Restores, leaks, ihp, ihn, resumes_run_iff, Bool.or_eq_false_iff]
    exact ⟨fun h => h.2, fun h => ⟨leaks_of_unwinds h.1, h⟩⟩
  | effect op next ih => exact ih b _

/-- In a declaration the group is always current that should be, exactly if no panic that leaves a group is
swallowed. In general the groups that panics leave open lie inside the group that was current before, and
an example that follows is declared inside all of them and notes their descriptions. -/
theorem restores_run_iff (perform : ν → Builder β → Thread σ → Thread σ) (p : Program β ν)
    (b : Builder β) (t : Thread σ) :
    let c := (p.run perform b t).2.1
    (p.Restores perform b t ↔ p.leaks = false) ∧ (b.Resumes c ↔ p.unwinds = false) ∧
      b.Carries p.left c ∧ (p.left = [] ↔ p.unwinds = false) ∧
      ∀ d callsite body, (c.addExample d callsite body).examples =
        c.examples ++ [⟨d, b.ancestry ++ p.left.reverse, callsite, body, none⟩] := by
  intro c
  have hcarries : b.Carries p.left c := carries_run perform p b t
  refine ⟨restores_iff_leaks perform p b t, resumes_run_iff perform p b t, hcarries,
    p.left_eq_nil_iff, fun d callsite body => ?_⟩
  rw [Builder.examples_addExample, hcarries.ancestry]

/-- The group `g` is left by a panic that is swallowed. The example `x` and the hook that follow are
declared in it, and the hook does not run before `a`. -/
theorem not_restores_run_swallowed :
    let p : Program Nat Unit := .leaf "a" ⟨"spec", 1⟩ (some 0) (.attempt
      (.group "g" (.panic .nonText none) .done) (.before 1 (.leaf "x" ⟨"spec", 2⟩ (some 2) .done)))
    let perform : Unit → Builder Nat → Thread Unit → Thread Unit := fun _ _ t => t
    ¬ p.Restores perform .start (.fresh ()) ∧
      ((p.run perform .start (.fresh ())).2.1.finish.schedule.map
        fun s => (s.subject.chain, s.before)) = [(["a"], []), (["g", "x"], [1])] := by
  intro p perform
  obtain ⟨hrestores, -⟩ := restores_run_iff perform p .start (.fresh ())
  refine ⟨fun h => ?_, rfl⟩
  exact absurd (hrestores.mp h) (by decide)

end Program

end Exemplar

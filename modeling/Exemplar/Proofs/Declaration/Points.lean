import Exemplar.Declaration.Program
import Mathlib.Logic.Relation

/-! Declarations step by step. A run as a whole says what a declaration leaves behind. At the points
in between one sees more: which groups are being declared, and which were left by a panic. A group of
either kind is open, and no other group is. -/

namespace Exemplar

variable {β ν σ : Type}

namespace Program

/-- What waits for the end of the part of a declaration that is under way. -/
inductive Frame (β ν : Type) where
  /-- The part is a group: it is closed, and the declaration goes on. -/
  | group (next : Program β ν)
  /-- A panic of the part is swallowed. -/
  | attempt (next : Program β ν)

def Frame.isGroup : Frame β ν → Bool
  | group _ => true
  | attempt _ => false

inductive Control (β ν : Type) where
  | declaring (p : Program β ν)
  /-- A panic is on its way out. -/
  | unwinding (payload : Payload)

/-- A point of a declaration. -/
structure Point (β ν σ : Type) where
  control : Control β ν
  /-- The innermost frame comes first. -/
  frames : List (Frame β ν)
  /-- The number of groups that a panic has left so far. -/
  unwound : Nat
  builder : Builder β
  thread : Thread σ

namespace Point

/-- Nothing of the declaration has run. -/
def start (p : Program β ν) (t : Thread σ) : Point β ν σ := ⟨.declaring p, [], 0, .start, t⟩

/-- The number of groups that are being declared. -/
def executing (m : Point β ν σ) : Nat := m.frames.countP Frame.isGroup

/-- A group has come to its end and is closed next. -/
def closes (m : Point β ν σ) : Prop :=
  ∃ next frames, m.control = .declaring .done ∧ m.frames = .group next :: frames

/-- A part of a declaration has come to its end with what a run of it gives. -/
def ended (frames : List (Frame β ν)) (unwound : Nat) :
    Option Payload × Builder β × Thread σ → Point β ν σ
  | (none, b, t) => ⟨.declaring .done, frames, unwound, b, t⟩
  | (some payload, b, t) => ⟨.unwinding payload, frames, unwound, b, t⟩

/-- The next point, if the declaration has not come to its end. -/
def step (perform : ν → Builder β → Thread σ → Thread σ) : Point β ν σ → Option (Point β ν σ)
  | ⟨.declaring .done, [], _, _, _⟩ => none
  | ⟨.declaring .done, .group next :: frames, n, b, t⟩ =>
    some ⟨.declaring next, frames, n, b.closeGroup, t⟩
  | ⟨.declaring .done, .attempt next :: frames, n, b, t⟩ => some ⟨.declaring next, frames, n, b, t⟩
  | ⟨.declaring (.group d members next), frames, n, b, t⟩ =>
    some ⟨.declaring members, .group next :: frames, n, b.openGroup d, t⟩
  | ⟨.declaring (.leaf d callsite body next), frames, n, b, t⟩ =>
    some ⟨.declaring next, frames, n, b.addExample d callsite body, t⟩
  | ⟨.declaring (.before hook next), frames, n, b, t⟩ =>
    some ⟨.declaring next, frames, n, b.addBefore hook, t⟩
  | ⟨.declaring (.after hook next), frames, n, b, t⟩ =>
    some ⟨.declaring next, frames, n, b.addAfter hook, t⟩
  | ⟨.declaring (.panic payload site), frames, n, b, t⟩ =>
    some ⟨.unwinding payload, frames, n, b, t.notePanic site⟩
  | ⟨.declaring (.attempt part next), frames, n, b, t⟩ =>
    some ⟨.declaring part, .attempt next :: frames, n, b, t⟩
  | ⟨.declaring (.effect op next), frames, n, b, t⟩ =>
    some ⟨.declaring next, frames, n, b, perform op b t⟩
  | ⟨.unwinding _, [], _, _, _⟩ => none
  | ⟨.unwinding payload, .group _ :: frames, n, b, t⟩ =>
    some ⟨.unwinding payload, frames, n + 1, b, t⟩
  | ⟨.unwinding _, .attempt next :: frames, n, b, t⟩ => some ⟨.declaring next, frames, n, b, t⟩

/-- The second point comes up in a run from the first. -/
abbrev Reaches (perform : ν → Builder β → Thread σ → Thread σ) :
    Point β ν σ → Point β ν σ → Prop :=
  Relation.ReflTransGen fun m m' => m.step perform = some m'

/-- Step by step a declaration comes to the end that a run of it gives, whatever is around it. -/
theorem reaches_ended (perform : ν → Builder β → Thread σ → Thread σ) (p : Program β ν)
    (frames : List (Frame β ν)) (n : Nat) (b : Builder β) (t : Thread σ) :
    ∃ n', Reaches perform ⟨.declaring p, frames, n, b, t⟩
      (ended frames n' (p.run perform b t)) := by
  -- over all frames, since the parts of a declaration run inside it
  induction p generalizing frames n b t with
  | done => exact ⟨n, .refl⟩
  | group d members next ihm ihn =>
    obtain ⟨m, hm⟩ := ihm (.group next :: frames) n (b.openGroup d) t
    rw [run]
    rcases hr : members.run perform (b.openGroup d) t with ⟨_ | payload, b', t'⟩
    all_goals rw [hr] at hm
    · obtain ⟨n', hn⟩ := ihn frames m b'.closeGroup t'
      exact ⟨n', .head rfl (hm.trans (.head rfl hn))⟩
    · -- the panic leaves the group, which stays open
      exact ⟨m + 1, .head rfl (hm.tail rfl)⟩
  | leaf d callsite body next ih =>
    obtain ⟨n', hn⟩ := ih frames n (b.addExample d callsite body) t
    exact ⟨n', .head rfl hn⟩
  | before hook next ih =>
    obtain ⟨n', hn⟩ := ih frames n (b.addBefore hook) t
    exact ⟨n', .head rfl hn⟩
  | after hook next ih =>
    obtain ⟨n', hn⟩ := ih frames n (b.addAfter hook) t
    exact ⟨n', .head rfl hn⟩
  | panic payload site => exact ⟨n, .single rfl⟩
  | attempt part next ihp ihn =>
    obtain ⟨m, hm⟩ := ihp (.attempt next :: frames) n b t
    rw [run]
    rcases hr : part.run perform b t with ⟨_ | payload, b', t'⟩
    all_goals
      rw [hr] at hm
      obtain ⟨n', hn⟩ := ihn frames m b' t'
      exact ⟨n', .head rfl (hm.trans (.head rfl hn))⟩
  | effect op next ih =>
    obtain ⟨n', hn⟩ := ih frames n b (perform op b t)
    exact ⟨n', .head rfl hn⟩

end Point

end Program

namespace Builder

theorem length_opened_modifyCurrent (b : Builder β) (f : Group β → Group β) :
    (b.modifyCurrent f).opened.length = b.opened.length := by
  rcases b with ⟨root, _ | ⟨g, outer⟩⟩ <;> rfl

theorem length_opened_openGroup (b : Builder β) (d : String) :
    (b.openGroup d).opened.length = b.opened.length + 1 := rfl

theorem length_opened_closeGroup (b : Builder β) :
    b.closeGroup.opened.length = b.opened.length - 1 := by
  rcases b with ⟨root, _ | ⟨g, outer⟩⟩
  · rfl
  · exact length_opened_modifyCurrent _ _

theorem length_opened_addExample (b : Builder β) (d : String) (callsite : Callsite)
    (body : Option β) : (b.addExample d callsite body).opened.length = b.opened.length :=
  length_opened_modifyCurrent _ _

theorem length_opened_addBefore (b : Builder β) (hook : β) :
    (b.addBefore hook).opened.length = b.opened.length :=
  length_opened_modifyCurrent _ _

theorem length_opened_addAfter (b : Builder β) (hook : β) :
    (b.addAfter hook).opened.length = b.opened.length :=
  length_opened_modifyCurrent _ _

end Builder

namespace Program.Point

/-- The open groups are those that are being declared and those that a panic has left. -/
def Balanced (m : Point β ν σ) : Prop := m.builder.opened.length = m.executing + m.unwound

theorem Balanced.step {perform : ν → Builder β → Thread σ → Thread σ} {m m' : Point β ν σ}
    (h : m.Balanced) (hs : m.step perform = some m') : m'.Balanced := by
  -- one case for each equation of `step`; both sides gain or lose a group together
  unfold Point.step at hs
  split at hs
  all_goals cases hs
  all_goals
    simp only [Balanced, executing, List.countP_cons, Frame.isGroup, if_true, Bool.false_eq_true,
      if_false, Builder.length_opened_openGroup, Builder.length_opened_closeGroup,
      Builder.length_opened_addExample, Builder.length_opened_addBefore,
      Builder.length_opened_addAfter] at h ⊢
    omega

theorem Balanced.reaches {perform : ν → Builder β → Thread σ → Thread σ} {m m' : Point β ν σ}
    (h : m.Balanced) (hr : Reaches perform m m') : m'.Balanced := by
  induction hr with
  | refl => exact h
  | tail _ hs ih => exact ih.step hs

/-- A group that is closed is there to be closed. -/
theorem Balanced.opened_ne_nil {m : Point β ν σ} (h : m.Balanced) (hc : m.closes) :
    m.builder.opened ≠ [] := by
  obtain ⟨next, frames, -, hf⟩ := hc
  have hlength := h
  rw [Balanced, executing, hf, List.countP_cons, Frame.isGroup, if_pos rfl] at hlength
  apply List.ne_nil_of_length_pos
  omega

end Program.Point

end Exemplar

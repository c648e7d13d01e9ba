import Exemplar.Tree.Schedule

namespace Exemplar

variable {β : Type}

namespace Children

@[simp]
theorem append_nil (c : Children β) : c.append .nil = c := by
  induction c with
  | nil => rfl
  | leaf e rest ih => rw [append, ih]
  | branch d members before after rest _ ih => rw [append, ih]

theorem append_assoc (a b c : Children β) : (a.append b).append c = a.append (b.append c) := by
  induction a with
  | nil => rfl
  | leaf e rest ih => simp only [append, ih]
  | branch d members before after rest _ ih => simp only [append, ih]

theorem schedule_append (before after : List β) (a b : Children β) :
    (a.append b).schedule before after = a.schedule before after ++ b.schedule before after := by
  induction a with
  | nil => rfl
  | leaf e rest ih => simp only [append, schedule, ih, List.cons_append]
  | branch d members own own' rest _ ih => simp only [append, schedule, ih, List.append_assoc]

/-- The schedule lists every example beneath once, in order, whatever hooks come from outside. -/
theorem map_subject_schedule (before after : List β) (c : Children β) :
    (c.schedule before after).map Scheduled.subject = c.flatten := by
  induction c generalizing before after with
  | nil => rfl
  | leaf e rest ih => simp only [schedule, flatten, List.map_cons, ih]
  | branch d members own own' rest ihm ihr => simp only [schedule, flatten, List.map_append, ihm, ihr]

theorem exampleCount_eq_length (c : Children β) : c.exampleCount = c.flatten.length := by
  induction c with
  | nil => rfl
  | leaf e rest ih => rw [exampleCount, flatten, List.length_cons, ih, Nat.add_comm]
  | branch d members before after rest ihm ihr =>
    rw [exampleCount, flatten, List.length_append, ihm, ihr]

end Children

namespace Group

theorem map_subject_schedule (g : Group β) : g.schedule.map Scheduled.subject = g.flatten :=
  g.children.map_subject_schedule g.before g.after

theorem exampleCount_eq_length (g : Group β) : g.exampleCount = g.flatten.length :=
  g.children.exampleCount_eq_length

theorem length_schedule (g : Group β) : g.schedule.length = g.exampleCount := by
  rw [exampleCount_eq_length, ← map_subject_schedule, List.length_map]

end Group

end Exemplar

import Exemplar.Proofs.Identifier.Allocation
import Exemplar.Tree.Basic

namespace Exemplar.Identifier.Allocator

/-- The search goes on from a number and ends with one whose suffixed base is free. Behind a taken one
it tries the next number, for which the counter must have room. -/
inductive Search (a : Allocator) (base : String) (room : Nat → Prop) : Nat → Nat → Prop
  | free {k : Nat} (h : suffixed base k ∉ a.taken) : Search a base room k k
  | next {k n : Nat} (h : suffixed base k ∈ a.taken) (hroom : room (k + 1))
    (rest : Search a base room (k + 1) n) : Search a base room k n

variable {a : Allocator} {base : String} {room room' : Nat → Prop}

theorem Search.mono (hroom : ∀ k, room k → room' k) {k n : Nat} (h : a.Search base room k n) :
    a.Search base room' k n := by
  induction h with
  | free h => exact .free h
  | next h hk _ ih => exact .next h (hroom _ hk) ih

/-- No search ends in two ways. -/
theorem Search.unique {k n m : Nat} (hn : a.Search base room k n) (hm : a.Search base room' k m) :
    n = m := by
  induction hn with
  | free h =>
    cases hm with
    | free => rfl
    | next h' => exact absurd h' h
  | next h _ _ ih =>
    cases hm with
    | free h' => exact absurd h h'
    | next _ _ rest => exact ih rest

/-- A search that starts below a free number comes to the first one that is free. -/
theorem search_of_forall_taken {k n : Nat} (hk : k ≤ n) (hfree : suffixed base n ∉ a.taken)
    (htaken : ∀ l, k ≤ l → l < n → suffixed base l ∈ a.taken) (hroom : ∀ l ≤ n, room l) :
    a.Search base room k n := by
  induction hk using Nat.decreasingInduction with
  | self => exact .free hfree
  | of_succ k hk ih =>
    refine .next (htaken k le_rfl hk) (hroom (k + 1) hk) (ih ?_)
    exact fun l hl => htaken l (by omega)

/-- The search that starts with two ends with the least number, and on the way it never holds a number
beyond one more than there are taken identifiers. -/
theorem search_leastFree (h : base ∈ a.taken) :
    a.Search base (· ≤ a.taken.toFinset.card + 1) 2 (a.leastFree base) := by
  obtain ⟨⟨htwo, hfree⟩, hleast⟩ := leastFree_isLeast h
  refine search_of_forall_taken htwo hfree ?_ fun l hl => hl.trans (leastFree_le h)
  intro l hl hlt
  by_contra hlfree
  have := hleast ⟨hl, hlfree⟩
  omega

/-- What an allocator hands out for a base, and what is taken afterwards. -/
structure Serves (a : Allocator) (base name : String) (a' : Allocator) : Prop where
  fresh : name ∉ a.taken
  taken_iff : ∀ s, s ∈ a'.taken ↔ s = name ∨ s ∈ a.taken
  of_free : base ∉ a.taken → name = base
  /-- The least number that makes the base free is appended to it. The search for it ends there and
  nowhere else, and a counter of 64 bits has room for it unless almost as many names are taken as it can
  count. -/
  of_taken : base ∈ a.taken → ∃ k, name = suffixed base k ∧
    IsLeast {k | 2 ≤ k ∧ suffixed base k ∉ a.taken} k ∧ k ≤ a.taken.toFinset.card + 1 ∧
    (∀ n, a.Search base (· ≤ a.taken.toFinset.card + 1) 2 n ↔ n = k) ∧
    (a.taken.toFinset.card < UInt64.size - 1 → a.Search base (· < UInt64.size) 2 k)

theorem choose_of_taken (h : base ∈ a.taken) : a.choose base = suffixed base (a.leastFree base) := by
  rw [choose, if_pos (by simpa using h)]

theorem choose_of_free (h : base ∉ a.taken) : a.choose base = base := by
  rw [choose, if_neg (by simpa using h)]

theorem serves_of_allocate (a : Allocator) (base : String) :
    a.Serves base (a.allocate base).1 (a.allocate base).2 where
  fresh := choose_not_mem a base
  taken_iff _ := List.mem_cons
  of_free := choose_of_free
  of_taken h := by
    have hsearch := search_leastFree h
    refine ⟨_, choose_of_taken h, leastFree_isLeast h, leastFree_le h, ?_, ?_⟩
    · intro n
      exact ⟨fun hn => hn.unique hsearch, fun hn => hn ▸ hsearch⟩
    · intro hcard
      exact hsearch.mono fun k hk => by omega

/-- An allocator hands out the base of an example or else its least free numbered form, whatever is
taken; so a sequence of examples gets identifiers that are pairwise distinct and were not taken. -/
theorem serves_allocate {β : Type} (a : Allocator) :
    (∀ base, a.Serves base (a.allocate base).1 (a.allocate base).2) ∧
      ∀ examples : List (Example β),
        let names := a.handOut (examples.map fun e => ofParts e.chain)
        names.Nodup ∧ (∀ name ∈ names, name ∉ a.taken) ∧ names.length = examples.length := by
  refine ⟨a.serves_of_allocate, fun examples => ⟨a.handOut_nodup _, a.handOut_not_mem _, ?_⟩⟩
  rw [length_handOut, List.length_map]

/-- A name that looks like a numbered one is skipped. -/
example : (start.handOut ["case_2", "case", "case"]) = ["case_2", "case", "case_3"] := by decide

end Exemplar.Identifier.Allocator

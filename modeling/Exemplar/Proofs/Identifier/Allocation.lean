import Mathlib.Data.Finset.Card
import Mathlib.Data.List.Nodup
import Mathlib.Order.Bounds.Basic
import Mathlib.Tactic.ByContra
import Mathlib.Tactic.Push
import Exemplar.Identifier.Allocator
import Exemplar.Identifier.Basic

namespace Exemplar.Identifier

namespace Allocator

theorem suffixed_injective {base : String} {k l : Nat} (h : suffixed base k = suffixed base l) :
    k = l := by
  have read (n : Nat) : Nat.ofDigitChars 10 (toString n).toList 0 = n := by
    rw [Nat.toString_eq_repr, Nat.toList_repr, Nat.ofDigitChars_ten_toDigits]
  rw [suffixed, suffixed, String.append_right_inj] at h
  rw [← read k, h, read l]

theorem suffixed_ne_base (base : String) (k : Nat) : suffixed base k ≠ base := by
  intro h
  have hl := congrArg String.length h
  simp only [suffixed, String.length_append] at hl
  have : ("_" : String).length = 1 := rfl
  omega

/-- If the base is taken, one of as many numbered bases as there are taken identifiers is free. -/
theorem exists_suffixed_free {a : Allocator} {base : String} (h : base ∈ a.taken) :
    ∃ k, 2 ≤ k ∧ k ≤ a.taken.toFinset.card + 1 ∧ suffixed base k ∉ a.taken := by
  by_contra hn
  push Not at hn
  -- otherwise the base and its numbered forms are too many to be taken
  let numbered := (List.range' 2 a.taken.toFinset.card).map (suffixed base)
  have hd : (base :: numbered).Nodup := by
    refine List.nodup_cons.mpr ⟨?_, List.Nodup.map (fun _ _ => suffixed_injective) List.nodup_range'⟩
    intro hm
    obtain ⟨k, _, hk⟩ := List.mem_map.mp hm
    exact suffixed_ne_base base k hk
  have hs : base :: numbered ⊆ a.taken.dedup := by
    intro name hname
    rcases List.mem_cons.mp hname with rfl | hm
    · exact List.mem_dedup.mpr h
    · obtain ⟨k, hk, rfl⟩ := List.mem_map.mp hm
      have hrange := List.mem_range'_1.mp hk
      exact List.mem_dedup.mpr (hn k hrange.1 (by omega))
  have hle := hd.length_le_of_subset hs
  simp only [numbered, List.length_cons, List.length_map, List.length_range', List.card_toFinset] at hle
  omega

/-- The number that is appended to a taken base is the least from 2 on that makes it free. -/
theorem leastFree_isLeast {a : Allocator} {base : String} (h : base ∈ a.taken) :
    IsLeast {k | 2 ≤ k ∧ suffixed base k ∉ a.taken} (a.leastFree base) := by
  obtain ⟨k, hk, hcard, hfree⟩ := exists_suffixed_free h
  have hlength : a.taken.toFinset.card ≤ a.taken.length := List.toFinset_card_le a.taken
  have hs : ((List.range' 2 a.taken.length).find?
      fun k => !a.taken.contains (suffixed base k)).isSome := by
    rw [List.find?_isSome]
    exact ⟨k, List.mem_range'_1.mpr ⟨hk, by omega⟩, by simpa using hfree⟩
  obtain ⟨m, hm⟩ := Option.isSome_iff_exists.mp hs
  rw [leastFree, hm, Option.getD_some]
  obtain ⟨hmfree, hmem, hbefore⟩ := List.find?_range'_eq_some.mp hm
  refine ⟨⟨(List.mem_range'_1.mp hmem).1, by simpa using hmfree⟩, ?_⟩
  rintro l ⟨hl, hlfree⟩
  by_contra hlt
  exact hlfree (by simpa using hbefore l hl (by omega))

theorem leastFree_free {a : Allocator} {base : String} (h : base ∈ a.taken) :
    suffixed base (a.leastFree base) ∉ a.taken :=
  (leastFree_isLeast h).1.2

/-- No more numbers than there are taken identifiers have to be tried. -/
theorem leastFree_le {a : Allocator} {base : String} (h : base ∈ a.taken) :
    a.leastFree base ≤ a.taken.toFinset.card + 1 := by
  obtain ⟨k, hk, hcard, hfree⟩ := exists_suffixed_free h
  exact ((leastFree_isLeast h).2 ⟨hk, hfree⟩).trans hcard

theorem choose_not_mem (a : Allocator) (base : String) : a.choose base ∉ a.taken := by
  rw [choose]
  split
  · next h => exact leastFree_free (by simpa using h)
  · next h => simpa using h

/-- The identifiers that are handed out for bases in turn. -/
def handOut : Allocator → List String → List String
  | _, [] => []
  | a, base :: bases => (a.allocate base).1 :: handOut (a.allocate base).2 bases

/-- The allocator after it has served bases in turn. -/
def after : Allocator → List String → Allocator
  | a, [] => a
  | a, base :: bases => after (a.allocate base).2 bases

theorem length_handOut (a : Allocator) (bases : List String) :
    (a.handOut bases).length = bases.length := by
  induction bases generalizing a with
  | nil => rfl
  | cons base bases ih => simp only [handOut, List.length_cons, ih]

theorem handOut_append (a : Allocator) (bases more : List String) :
    a.handOut (bases ++ more) = a.handOut bases ++ (a.after bases).handOut more := by
  induction bases generalizing a with
  | nil => rfl
  | cons base bases ih => simp only [List.cons_append, handOut, after, ih]

theorem handOut_not_mem (a : Allocator) (bases : List String) :
    ∀ name ∈ a.handOut bases, name ∉ a.taken := by
  -- over all allocators, since what is handed out is taken from then on
  induction bases generalizing a with
  | nil => simp [handOut]
  | cons base bases ih =>
    intro name hname
    rcases List.mem_cons.mp hname with rfl | hm
    · exact a.choose_not_mem base
    · exact fun ht => ih _ name hm (List.mem_cons_of_mem _ ht)

theorem handOut_nodup (a : Allocator) (bases : List String) : (a.handOut bases).Nodup := by
  induction bases generalizing a with
  | nil => exact List.nodup_nil
  | cons base bases ih =>
    refine List.nodup_cons.mpr ⟨?_, ih _⟩
    intro hm
    exact handOut_not_mem _ bases _ hm List.mem_cons_self

end Allocator

/-- The identifiers of a sequence of description chains. -/
def ofChains (chains : List (List String)) : List String :=
  Allocator.start.handOut (chains.map ofParts)

theorem length_ofChains (chains : List (List String)) : (ofChains chains).length = chains.length := by
  rw [ofChains, Allocator.length_handOut, List.length_map]

theorem ofChains_nodup (chains : List (List String)) : (ofChains chains).Nodup :=
  Allocator.handOut_nodup _ _

/-- More chains at the end leave the identifiers of the earlier ones as they are. -/
theorem ofChains_isPrefix_append (chains more : List (List String)) :
    ofChains chains <+: ofChains (chains ++ more) := by
  rw [ofChains, ofChains, List.map_append, Allocator.handOut_append]
  exact List.prefix_append _ _

end Exemplar.Identifier

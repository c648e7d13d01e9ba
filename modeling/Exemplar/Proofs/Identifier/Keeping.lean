import Mathlib.Data.List.Basic
import Exemplar.Proofs.Identifier.Search
import Exemplar.Text.Digits

/-! Who keeps a base. An example whose base came before is given a number. One whose base is new keeps it,
unless the base looks like a numbered one and has already been given to a duplicate of another base. How
many duplicates it takes for that can be read off the bases alone. -/

namespace Exemplar.Identifier.Allocator

/-- A numbered base tells the base and the number, since digits have no underscore among them. -/
theorem suffixed_inj {base base' : String} {k k' : Nat} (h : suffixed base k = suffixed base' k') :
    base = base' ∧ k = k' := by
  have hdigits (b : String) (n : Nat) :
      (suffixed b n).toList.reverse.takeWhile (· ≠ '_') = (toString n).toList.reverse := by
    have hnone : ∀ c ∈ (toString n).toList.reverse, decide (c ≠ '_') = true := by
      intro c hc
      have hne : c ≠ '_' := fun h => Text.not_mem_toString rfl n (h ▸ List.mem_reverse.mp hc)
      simpa using hne
    rw [suffixed, String.toList_append, String.toList_append, List.reverse_append,
      List.takeWhile_append_of_pos hnone, List.reverse_append]
    simp
  have hreverse : (toString k).toList.reverse = (toString k').toList.reverse := by
    rw [← hdigits base k, h, hdigits]
  have hnumber : toString k = toString k' := by
    rw [← String.toList_inj]
    exact List.reverse_injective hreverse
  have hsame : suffixed base k = suffixed base k' := by rw [suffixed, suffixed, hnumber]
  obtain rfl := suffixed_injective hsame
  refine ⟨?_, rfl⟩
  rwa [suffixed, suffixed, String.append_left_inj, String.append_left_inj] at h

/-- The identifiers that are handed out, in order, from the start. -/
def names (bases : List String) : List String := start.handOut bases

theorem choose_eq_self_iff {a : Allocator} {base : String} : a.choose base = base ↔ base ∉ a.taken := by
  refine ⟨fun h ht => ?_, choose_of_free⟩
  rw [choose_of_taken ht] at h
  exact suffixed_ne_base base _ h

theorem mem_taken_after (a : Allocator) (bases : List String) (name : String) :
    name ∈ (a.after bases).taken ↔ name ∈ a.taken ∨ name ∈ a.handOut bases := by
  induction bases generalizing a with
  | nil => simp [after, handOut]
  | cons base bases ih =>
    rw [after, ih, handOut, allocate]
    simp only [List.mem_cons]
    tauto

theorem mem_taken {bases : List String} {name : String} :
    name ∈ (start.after bases).taken ↔ name ∈ names bases := by
  rw [mem_taken_after]
  simp [start, names]

theorem names_append_singleton (bases : List String) (base : String) :
    names (bases ++ [base]) = names bases ++ [(start.after bases).choose base] := by
  rw [names, handOut_append]
  rfl

theorem getElem?_names_length {earlier bases : List String} {base : String}
    (h : earlier ++ [base] <+: bases) :
    (names bases)[earlier.length]? = some ((start.after earlier).choose base) := by
  obtain ⟨later, rfl⟩ := h
  have hlength : (names earlier).length = earlier.length := length_handOut _ _
  rw [names, handOut_append, ← names, names_append_singleton, ← hlength]
  simp

/-- A new base is given away. -/
theorem names_append_of_free {bases : List String} {base : String} (h : base ∉ names bases) :
    names (bases ++ [base]) = names bases ++ [base] := by
  rw [names_append_singleton, choose_of_free (mt mem_taken.mp h)]

/-- A base that is taken is given away with the least number that makes it new. -/
theorem names_append_of_taken {bases : List String} {base : String} (h : base ∈ names bases) :
    ∃ k, names (bases ++ [base]) = names bases ++ [suffixed base k] ∧ 2 ≤ k ∧
      suffixed base k ∉ names bases ∧ ∀ l, 2 ≤ l → l < k → suffixed base l ∈ names bases := by
  have htaken := mem_taken.mpr h
  obtain ⟨⟨htwo, hfree⟩, hleast⟩ := leastFree_isLeast htaken
  refine ⟨_, by rw [names_append_singleton, choose_of_taken htaken], htwo, mt mem_taken.mpr hfree, ?_⟩
  intro l hl hlt
  by_contra hlfree
  have := hleast ⟨hl, mt mem_taken.mp hlfree⟩
  omega

theorem mem_names_of_mem {bases : List String} {base : String} (h : base ∈ bases) :
    base ∈ names bases := by
  induction bases using List.reverseRecOn with
  | nil => cases h
  | append_singleton bases b ih =>
    rw [names_append_singleton, List.mem_append, List.mem_singleton]
    rcases List.mem_append.mp h with h | h
    · exact .inl (ih h)
    · obtain rfl := List.mem_singleton.mp h
      by_cases ht : base ∈ names bases
      · exact .inl ht
      · exact .inr (choose_of_free (mt mem_taken.mp ht)).symm

/-- What is handed out is a base or a numbered one. -/
theorem exists_of_mem_names {bases : List String} {name : String} (h : name ∈ names bases) :
    name ∈ bases ∨ ∃ base ∈ bases, ∃ k, 2 ≤ k ∧ name = suffixed base k := by
  induction bases using List.reverseRecOn with
  | nil => cases h
  | append_singleton bases b ih =>
    have hearlier (h : name ∈ names bases) :
        name ∈ bases ++ [b] ∨ ∃ base ∈ bases ++ [b], ∃ k, 2 ≤ k ∧ name = suffixed base k := by
      refine (ih h).imp (List.mem_append_left _) ?_
      exact fun ⟨base, hbase, hk⟩ => ⟨base, List.mem_append_left _ hbase, hk⟩
    by_cases ht : b ∈ names bases
    · obtain ⟨k, hnames, htwo, -⟩ := names_append_of_taken ht
      rw [hnames, List.mem_append, List.mem_singleton] at h
      rcases h with h | h
      · exact hearlier h
      · exact .inr ⟨b, by simp, k, htwo, h⟩
    · rw [names_append_of_free ht, List.mem_append, List.mem_singleton] at h
      rcases h with h | rfl
      · exact hearlier h
      · exact .inl (by simp)

/-- Each example whose base is new is given it. -/
def FirstsKeep (bases : List String) : Prop :=
  ∀ earlier base, earlier ++ [base] <+: bases → base ∉ earlier →
    (names bases)[earlier.length]? = some base

theorem firstsKeep_iff {bases : List String} :
    FirstsKeep bases ↔
      ∀ earlier base, earlier ++ [base] <+: bases → base ∉ earlier → base ∉ names earlier := by
  refine forall₂_congr fun earlier base => forall₂_congr fun h hnew => ?_
  rw [getElem?_names_length h, Option.some_inj, choose_eq_self_iff, mem_taken]

/-- A property of every example with those before it. -/
theorem forall_prefix_append_singleton {P : List String → String → Prop} {bases : List String}
    {last : String} :
    (∀ earlier base, earlier ++ [base] <+: bases ++ [last] → P earlier base) ↔
      (∀ earlier base, earlier ++ [base] <+: bases → P earlier base) ∧ P bases last := by
  simp only [List.prefix_concat_iff]
  constructor
  · intro h
    exact ⟨fun earlier base hp => h earlier base (.inr hp), h bases last (.inl rfl)⟩
  · rintro ⟨h, hlast⟩ earlier base (heq | hp)
    · obtain ⟨rfl, hbase⟩ := List.append_inj' heq rfl
      obtain rfl := List.singleton_inj.mp hbase
      exact hlast
    · exact h earlier base hp

theorem firstsKeep_append_singleton {bases : List String} {last : String} :
    FirstsKeep (bases ++ [last]) ↔ FirstsKeep bases ∧ (last ∉ bases → last ∉ names bases) := by
  rw [firstsKeep_iff, firstsKeep_iff]
  exact forall_prefix_append_singleton

/-- The numbers that the duplicates of a base are given, if each example whose base is new keeps it. -/
structure Numbering (bases : List String) (base : String) (numbers : Finset Nat) : Prop where
  mem_iff : ∀ k, k ∈ numbers ↔ 2 ≤ k ∧ suffixed base k ∈ names bases ∧ suffixed base k ∉ bases
  card : numbers.card = bases.count base - 1
  lower : ∀ k ∈ numbers, ∀ l, 2 ≤ l → l < k → suffixed base l ∈ names bases

namespace Numbering

variable {bases : List String} {base last : String} {numbers : Finset Nat}

theorem empty (base : String) : Numbering [] base ∅ where
  mem_iff k := by simp [names, handOut]
  card := rfl
  lower k hk := absurd hk (Finset.notMem_empty k)

/-- A new base does not touch the numbers. -/
theorem new (h : Numbering bases base numbers) (hlast : last ∉ bases) (hfree : last ∉ names bases) :
    Numbering (bases ++ [last]) base numbers := by
  have hnames := names_append_of_free hfree
  refine ⟨fun k => ?_, ?_, fun k hk l hl hlt => ?_⟩
  · rw [h.mem_iff, hnames]
    simp only [List.mem_append, List.mem_singleton]
    constructor
    · rintro ⟨htwo, hmem, hnot⟩
      refine ⟨htwo, .inl hmem, ?_⟩
      rintro (h | rfl)
      · exact hnot h
      · exact hfree hmem
    · tauto
  · rw [List.count_append, h.card]
    by_cases hb : last = base
    · subst hb
      rw [List.count_eq_zero_of_not_mem hlast, List.count_singleton_self]
    · rw [List.count_singleton, if_neg (by simpa using hb)]
      rfl
  · rw [hnames]
    exact List.mem_append_left _ (h.lower k hk l hl hlt)

/-- A duplicate of the base is given one number more. -/
theorem duplicate (h : Numbering bases base numbers) (hbase : base ∈ bases) :
    ∃ k, Numbering (bases ++ [base]) base (insert k numbers) := by
  obtain ⟨k, hnames, htwo, hfree, hlower⟩ := names_append_of_taken (mem_names_of_mem hbase)
  have hk : k ∉ numbers := fun hk => hfree ((h.mem_iff k).mp hk).2.1
  refine ⟨k, fun l => ?_, ?_, fun l hl m hm hlt => ?_⟩
  · have hne : suffixed base l ≠ base := suffixed_ne_base base l
    rw [Finset.mem_insert, h.mem_iff, hnames]
    simp only [List.mem_append, List.mem_singleton, hne, or_false]
    constructor
    · rintro (rfl | ⟨hl, hmem, hnot⟩)
      · exact ⟨htwo, .inr rfl, mt mem_names_of_mem hfree⟩
      · exact ⟨hl, .inl hmem, hnot⟩
    · rintro ⟨hl, hmem | heq, hnot⟩
      · exact .inr ⟨hl, hmem, hnot⟩
      · exact .inl (suffixed_injective heq)
  · have hpos : 0 < bases.count base := List.count_pos_iff.mpr hbase
    rw [Finset.card_insert_of_notMem hk, h.card, List.count_append, List.count_singleton_self]
    omega
  · rw [hnames]
    apply List.mem_append_left
    rcases Finset.mem_insert.mp hl with rfl | hl
    · exact hlower m hm hlt
    · exact h.lower l hl m hm hlt

/-- A duplicate of another base is given a form of that base. -/
theorem other (h : Numbering bases base numbers) (hlast : last ∈ bases) (hne : last ≠ base) :
    Numbering (bases ++ [last]) base numbers := by
  obtain ⟨k, hnames, -⟩ := names_append_of_taken (mem_names_of_mem hlast)
  refine ⟨fun l => ?_, ?_, fun l hl m hm hlt => ?_⟩
  · have hform : suffixed base l ≠ suffixed last k := fun heq => hne (suffixed_inj heq).1.symm
    have hlater : suffixed base l = last → suffixed base l ∈ bases := fun heq => heq ▸ hlast
    rw [h.mem_iff, hnames]
    simp only [List.mem_append, List.mem_singleton, hform, or_false]
    tauto
  · rw [h.card, List.count_append, List.count_singleton, if_neg (by simpa using hne)]
    rfl
  · rw [hnames]
    exact List.mem_append_left _ (h.lower l hl m hm hlt)

end Numbering

theorem FirstsKeep.exists_numbering {bases : List String} (h : FirstsKeep bases) (base : String) :
    ∃ numbers, Numbering bases base numbers := by
  induction bases using List.reverseRecOn with
  | nil => exact ⟨∅, .empty base⟩
  | append_singleton bases last ih =>
    obtain ⟨hkeep, hlast⟩ := firstsKeep_append_singleton.mp h
    obtain ⟨numbers, hnumbers⟩ := ih hkeep
    -- a duplicate of the base, a duplicate of another one, or a new base
    by_cases hmem : last ∈ bases
    · by_cases hb : last = base
      · subst hb
        obtain ⟨k, hk⟩ := hnumbers.duplicate hmem
        exact ⟨_, hk⟩
      · exact ⟨numbers, hnumbers.other hmem hb⟩
    · exact ⟨numbers, hnumbers.new hmem (hlast hmem)⟩

/-- The numbers from 2 to `k` whose forms of the base are not bases themselves. -/
def openNumbers (earlier : List String) (base : String) (k : Nat) : List Nat :=
  (List.range' 2 (k - 1)).filter fun l => suffixed base l ∉ earlier

/-- The duplicates of the base are so many that one of them is given the number `k`. The first example
of the base is no duplicate, and a form that is a base itself is passed over. -/
def Reaches (earlier : List String) (base : String) (k : Nat) : Prop :=
  (openNumbers earlier base k).length + 1 ≤ earlier.count base

instance (earlier : List String) (base : String) (k : Nat) : Decidable (Reaches earlier base k) :=
  Nat.decLe _ _

theorem mem_openNumbers {earlier : List String} {base : String} {k l : Nat} :
    l ∈ openNumbers earlier base k ↔ 2 ≤ l ∧ l ≤ k ∧ suffixed base l ∉ earlier := by
  simp only [openNumbers, List.mem_filter, List.mem_range'_1, decide_eq_true_eq]
  rw [← and_assoc]
  refine and_congr_left fun _ => ?_
  omega

theorem card_openNumbers (earlier : List String) (base : String) (k : Nat) :
    (openNumbers earlier base k).toFinset.card = (openNumbers earlier base k).length :=
  List.toFinset_card_of_nodup (List.Nodup.filter _ List.nodup_range')

/-- A number is given exactly if the duplicates reach it. -/
theorem Numbering.mem_iff_reaches {bases : List String} {base : String} {numbers : Finset Nat} {k : Nat}
    (h : Numbering bases base numbers) (hk : 2 ≤ k) (hnot : suffixed base k ∉ bases) :
    k ∈ numbers ↔ Reaches bases base k := by
  have hcard := h.card
  have hopen := card_openNumbers bases base k
  constructor
  · intro hmem
    have hsub : (openNumbers bases base k).toFinset ⊆ numbers := by
      intro l hl
      obtain ⟨htwo, hle, hlnot⟩ := mem_openNumbers.mp (List.mem_toFinset.mp hl)
      rcases hle.eq_or_lt with rfl | hlt
      · exact hmem
      · exact (h.mem_iff l).mpr ⟨htwo, h.lower k hmem l htwo hlt, hlnot⟩
    have hle := Finset.card_le_card hsub
    have hpos := Finset.card_pos.mpr ⟨k, hmem⟩
    rw [Reaches]
    omega
  · intro hreaches
    by_contra hmem
    have hsub : insert k numbers ⊆ (openNumbers bases base k).toFinset := by
      intro l hl
      rw [List.mem_toFinset, mem_openNumbers]
      rcases Finset.mem_insert.mp hl with rfl | hl
      · exact ⟨hk, le_rfl, hnot⟩
      · obtain ⟨htwo, -, hlnot⟩ := (h.mem_iff l).mp hl
        refine ⟨htwo, ?_, hlnot⟩
        by_contra hlt
        exact hmem ((h.mem_iff k).mpr ⟨hk, h.lower l hl k hk (by omega), hnot⟩)
    have hle := Finset.card_le_card hsub
    rw [Finset.card_insert_of_notMem hmem] at hle
    rw [Reaches] at hreaches
    omega

/-- While each example whose base is new keeps it, a new base is taken exactly if it is a numbered one
that the duplicates reach. -/
theorem FirstsKeep.mem_names_iff {bases : List String} (h : FirstsKeep bases) {last : String}
    (hlast : last ∉ bases) :
    last ∈ names bases ↔ ∃ base k, 2 ≤ k ∧ last = suffixed base k ∧ Reaches bases base k := by
  constructor
  · intro hmem
    obtain ⟨base, -, k, hk, rfl⟩ := (exists_of_mem_names hmem).resolve_left hlast
    obtain ⟨numbers, hnumbers⟩ := h.exists_numbering base
    have hgiven : k ∈ numbers := (hnumbers.mem_iff k).mpr ⟨hk, hmem, hlast⟩
    exact ⟨base, k, hk, rfl, (hnumbers.mem_iff_reaches hk hlast).mp hgiven⟩
  · rintro ⟨base, k, hk, rfl, hreaches⟩
    obtain ⟨numbers, hnumbers⟩ := h.exists_numbering base
    have hgiven := (hnumbers.mem_iff_reaches hk hlast).mpr hreaches
    exact ((hnumbers.mem_iff k).mp hgiven).2.1

theorem firstsKeep_iff_reaches {bases : List String} :
    FirstsKeep bases ↔ ∀ earlier last, earlier ++ [last] <+: bases → last ∉ earlier →
      ∀ base k, 2 ≤ k → last = suffixed base k → ¬ Reaches earlier base k := by
  induction bases using List.reverseRecOn with
  | nil => simp [FirstsKeep]
  | append_singleton bases last ih =>
    rw [firstsKeep_append_singleton, ih, forall_prefix_append_singleton, ← ih]
    refine and_congr_right fun hkeep => forall_congr' fun hlast => ?_
    rw [hkeep.mem_names_iff hlast]
    push Not
    rfl

/-- An example is given its base exactly if the base has not been given away before it, and a number at
any rate if another example had the same base. Each example whose base is new keeps it exactly if no such
base is a numbered form of another base with enough duplicates before it. -/
theorem firstsKeep_examples_iff {β : Type} (examples : List (Example β)) :
    let bases := examples.map fun e => ofParts e.chain
    (∀ earlier base, earlier ++ [base] <+: bases →
        ((names bases)[earlier.length]? = some base ↔ base ∉ names earlier) ∧
        (base ∈ earlier →
          ∃ k, 2 ≤ k ∧ (names bases)[earlier.length]? = some (suffixed base k))) ∧
      (FirstsKeep bases ↔ ∀ earlier last, earlier ++ [last] <+: bases → last ∉ earlier →
        ∀ base k, 2 ≤ k → last = suffixed base k → ¬ Reaches earlier base k) := by
  intro bases
  refine ⟨fun earlier base h => ⟨?_, fun hmem => ?_⟩, firstsKeep_iff_reaches⟩
  · rw [getElem?_names_length h, Option.some_inj, choose_eq_self_iff, mem_taken]
  · have htaken := mem_taken.mpr (mem_names_of_mem hmem)
    refine ⟨_, (leastFree_isLeast htaken).1.1, ?_⟩
    rw [getElem?_names_length h, choose_of_taken htaken]

/-- The second `case` is given the base of `case 2`, which is left with another number. -/
theorem not_firstsKeep_examples_case :
    let examples : List (Example Unit) := [⟨"case", [], ⟨"spec", 1⟩, none, none⟩,
      ⟨"case", [], ⟨"spec", 2⟩, none, none⟩, ⟨"case 2", [], ⟨"spec", 3⟩, none, none⟩]
    let bases := examples.map fun e => ofParts e.chain
    bases = ["case", "case", "case_2"] ∧ names bases = ["case", "case_2", "case_2_2"] ∧
      ¬ FirstsKeep bases := by
  intro examples bases
  have hbases : bases = ["case", "case", "case_2"] := by decide +kernel
  obtain ⟨-, hiff⟩ := firstsKeep_examples_iff examples
  refine ⟨hbases, by rw [hbases]; decide, fun hkeep => ?_⟩
  have hprefix : ["case", "case"] ++ ["case_2"] <+: bases := by rw [hbases]; decide
  exact hiff.mp hkeep _ _ hprefix (by decide) "case" 2 le_rfl rfl (by decide)

end Exemplar.Identifier.Allocator

import Exemplar.Bridge.Basic
import Exemplar.Proofs.Identifier.Allocation
import Exemplar.Proofs.Tree.Naming

namespace Exemplar

variable {β : Type}

/-- The identifiers that a bridge over the group allocates, one for each example beneath. -/
def Group.identifiers (g : Group β) : List String :=
  Identifier.ofChains (g.flatten.map Example.chain)

/-- The group after a bridge over it was made. -/
def Group.named (g : Group β) : Group β := g.assignNames ((Bridge.entries g).map Prod.fst)

/-- Each invocation has an identifier of its own, and to it the example of the same number is bound. -/
structure Bridge.Faithful (b : Bridge β) (examples : List (Example β)) : Prop where
  complete : b.invocations.length = examples.length
  distinct : (b.invocations.map Invocation.id).Nodup
  bound : ∀ (i : Nat) (e : Example β), examples[i]? = some e →
    ∃ v, b.invocations[i]? = some v ∧ b.getExample v.id = .ok e

theorem lookup_of_mem_of_nodup {κ α : Type} [BEq κ] [LawfulBEq κ] {l : List (κ × α)}
    (hd : (l.map Prod.fst).Nodup) {k : κ} {v : α} (hm : (k, v) ∈ l) : l.lookup k = some v := by
  induction l with
  | nil => simp at hm
  | cons entry l ih =>
    have hd' := List.nodup_cons.mp hd
    rcases List.mem_cons.mp hm with rfl | hm
    · exact List.lookup_cons_self
    · have hne : k ≠ entry.1 := by
        rintro rfl
        exact hd'.1 (List.mem_map.mpr ⟨_, hm, rfl⟩)
      have hb : (k == entry.1) = false := by simpa using hne
      rw [List.lookup_cons, hb]
      exact ih hd'.2 hm

namespace Group

theorem length_identifiers (g : Group β) : g.identifiers.length = g.exampleCount := by
  rw [identifiers, Identifier.length_ofChains, List.length_map, exampleCount_eq_length]

theorem identifiers_unnamed (g : Group β) : g.unnamed.identifiers = g.identifiers := by
  rw [identifiers, identifiers, flatten_unnamed, List.map_map]
  rfl

theorem unnamed_named (g : Group β) : g.named.unnamed = g.unnamed := g.unnamed_assignNames _

/-- The names that examples bear have no part in the identifiers of a tree. -/
theorem identifiers_congr {g g' : Group β} (h : g.unnamed = g'.unnamed) :
    g.identifiers = g'.identifiers :=
  calc g.identifiers = g.unnamed.identifiers := g.identifiers_unnamed.symm
    _ = g'.unnamed.identifiers := by rw [h]
    _ = g'.identifiers := g'.identifiers_unnamed

theorem identifiers_named (g : Group β) : g.named.identifiers = g.identifiers :=
  identifiers_congr g.unnamed_named

theorem exampleCount_congr {g g' : Group β} (h : g.unnamed = g'.unnamed) :
    g.exampleCount = g'.exampleCount :=
  calc g.exampleCount = g.identifiers.length := g.length_identifiers.symm
    _ = g'.identifiers.length := by rw [identifiers_congr h]
    _ = g'.exampleCount := g'.length_identifiers

end Group

namespace Bridge

open Identifier (Allocator)

/-- The binding of an example for which an identifier was allocated. -/
def binding (s : Scheduled β) (allocated : String) : String × Scheduled β :=
  (s.subject.nameAfter allocated, { s with subject := s.subject.assignName allocated })

theorem identify_eq_zipWith (a : Allocator) (ss : List (Scheduled β)) :
    identify a ss =
      List.zipWith binding ss (a.handOut (ss.map fun s => Identifier.ofParts s.subject.chain)) := by
  induction ss generalizing a with
  | nil => rfl
  | cons s ss ih =>
    simp only [identify, List.map_cons, Allocator.handOut, List.zipWith_cons_cons, ih]
    rfl

theorem entries_eq_zipWith (g : Group β) : entries g = List.zipWith binding g.schedule g.identifiers := by
  have hm : (g.schedule.map fun s => Identifier.ofParts s.subject.chain) =
      (g.flatten.map Example.chain).map Identifier.ofParts := by
    rw [← g.map_subject_schedule, List.map_map, List.map_map]
    rfl
  rw [entries, identify_eq_zipWith, hm]
  rfl

theorem length_entries (g : Group β) : (entries g).length = g.exampleCount := by
  rw [entries_eq_zipWith, List.length_zipWith, g.length_schedule, g.length_identifiers, Nat.min_self]

/-- The bound examples are those of the tree as it is afterwards. -/
theorem map_subject_entries (g : Group β) :
    (entries g).map (fun entry => entry.2.subject) =
      List.zipWith Example.assignName g.flatten g.identifiers := by
  rw [entries_eq_zipWith, List.map_zipWith, ← g.map_subject_schedule, List.zipWith_map_left]
  rfl

theorem generatedName_of_mem_entries {g : Group β} {entry : String × Scheduled β}
    (h : entry ∈ entries g) : entry.2.subject.generatedName = some entry.1 := by
  rw [entries_eq_zipWith] at h
  obtain ⟨i, hi, rfl⟩ := List.mem_iff_getElem.mp h
  rw [List.getElem_zipWith]
  rfl

end Bridge

theorem Group.flatten_named (g : Group β) :
    g.named.flatten = List.zipWith Example.assignName g.flatten g.identifiers := by
  have hl : g.exampleCount ≤ ((Bridge.entries g).map Prod.fst).length :=
    Nat.le_of_eq (by rw [List.length_map, Bridge.length_entries])
  have hf : (Bridge.entries g).map Prod.fst =
      List.zipWith Example.nameAfter g.flatten g.identifiers := by
    rw [Bridge.entries_eq_zipWith, List.map_zipWith, ← g.map_subject_schedule,
      List.zipWith_map_left]
    rfl
  rw [named, flatten_assignNames hl, hf]
  apply List.ext_getElem
  · simp
  · intro i hi hi'
    simp only [List.getElem_zipWith, Example.assignName_nameAfter]

/-- Examples that bear a name keep it, so the allocated names may as well be given to all. -/
theorem Group.named_eq_assignNames (g : Group β) : g.named = g.assignNames g.identifiers := by
  apply eq_of_flatten_eq
  · rw [g.unnamed_named, g.unnamed_assignNames]
  · rw [g.flatten_named, flatten_assignNames (Nat.le_of_eq g.length_identifiers.symm)]

namespace Bridge

variable (spec separator : String) (g : Group β)

theorem getElem?_invocations (i : Nat) :
    (ofGroup spec separator g).1.invocations[i]? =
      (entries g)[i]?.map fun entry => ⟨entry.1, spec, i⟩ := by
  simp only [ofGroup, ofEntries, listInvocations, List.getElem?_mapIdx]

theorem map_id_invocations :
    (ofGroup spec separator g).1.invocations.map Invocation.id = (entries g).map Prod.fst := by
  apply List.ext_getElem?
  intro i
  rw [List.getElem?_map, List.getElem?_map, getElem?_invocations, Option.map_map]
  rfl

theorem map_some_entries :
    ((entries g).map Prod.fst).map some = g.named.flatten.map Example.generatedName := by
  rw [g.flatten_named, ← map_subject_entries, List.map_map, List.map_map]
  apply List.map_congr_left
  intro entry h
  exact (generatedName_of_mem_entries h).symm

theorem map_fst_entries_of_names {ids : List String}
    (h : g.named.flatten.map Example.generatedName = ids.map some) :
    (entries g).map Prod.fst = ids := by
  apply List.map_injective_iff.mpr fun _ _ => Option.some.inj
  rw [map_some_entries, h]

theorem getExample_of_not_mem {id : String} (h : id ∉ (entries g).map Prod.fst) :
    (ofGroup spec separator g).1.getExample id = .error (.unboundInvocation spec id) := by
  have hn : (entries g).reverse.lookup id = none := by
    rw [List.lookup_eq_none_iff]
    intro entry hm
    have hne : id ≠ entry.1 := by
      rintro rfl
      exact h (List.mem_map.mpr ⟨entry, List.mem_reverse.mp hm, rfl⟩)
    simpa using hne
  simp only [getExample, resolve, ofGroup, ofEntries, hn]

theorem resolve_of_mem {id : String} (h : id ∈ (entries g).map Prod.fst) :
    ∃ entry, (ofGroup spec separator g).1.resolve id = .ok entry := by
  cases hl : (entries g).reverse.lookup id with
  | some entry => exact ⟨entry, by simp only [resolve, ofGroup, ofEntries, hl]⟩
  | none =>
    obtain ⟨entry, hm, rfl⟩ := List.mem_map.mp h
    simpa using List.lookup_eq_none_iff.mp hl entry (List.mem_reverse.mpr hm)

theorem resolve_of_nodup (hd : ((entries g).map Prod.fst).Nodup) {entry : String × Scheduled β}
    (hm : entry ∈ entries g) :
    (ofGroup spec separator g).1.resolve entry.1 = .ok entry.2 := by
  have hr : ((entries g).reverse.map Prod.fst).Nodup := by
    rw [List.map_reverse]
    exact List.nodup_reverse.mpr hd
  have hl := lookup_of_mem_of_nodup hr (List.mem_reverse.mpr hm)
  simp only [resolve, ofGroup, ofEntries, hl]

/-- A bridge is faithful to the examples of its group exactly if no two of them bear one name. -/
theorem faithful_iff_nodup :
    (ofGroup spec separator g).1.Faithful g.named.flatten ↔
      (g.named.flatten.map Example.generatedName).Nodup := by
  have hmap := map_some_entries g
  have hnodup : (g.named.flatten.map Example.generatedName).Nodup ↔
      ((entries g).map Prod.fst).Nodup := by
    rw [← hmap]
    exact List.nodup_map_iff fun _ _ => Option.some.inj
  rw [hnodup]
  constructor
  · -- the identifiers are the names, so distinctness says all
    intro hf
    have hd := hf.distinct
    rwa [map_id_invocations] at hd
  · intro hd
    refine ⟨?_, ?_, ?_⟩
    · have hl := congrArg List.length hmap
      have hi := congrArg List.length (map_id_invocations spec separator g)
      simp only [List.length_map] at hl hi
      rw [hi, hl]
    · rwa [map_id_invocations]
    · intro i e he
      rw [g.flatten_named, ← map_subject_entries, List.getElem?_map] at he
      obtain ⟨entry, hentry, rfl⟩ := Option.map_eq_some_iff.mp he
      refine ⟨⟨entry.1, spec, i⟩, ?_, ?_⟩
      · rw [getElem?_invocations, hentry]
        rfl
      · have hr := resolve_of_nodup spec separator g hd (List.mem_of_getElem? hentry)
        simp only [getExample, hr]

end Bridge

end Exemplar

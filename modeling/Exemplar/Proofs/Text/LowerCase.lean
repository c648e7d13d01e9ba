import Exemplar.Text.Alphanumeric
import Exemplar.Text.LowerCase

namespace Exemplar.Text

namespace CaseRun

/-- The last small letter of the run. -/
def top (r : CaseRun) : Nat := r.small + (r.last - r.first)

/-- All small letters of the run. -/
def smalls (r : CaseRun) : List Nat :=
  (List.range ((r.last - r.first) / r.stride + 1)).map fun i => r.small + i * r.stride

theorem mem_smalls_of_small? {r : CaseRun} {n m : Nat} (h : r.small? n = some m) : m ∈ r.smalls := by
  rw [small?] at h
  split at h
  · next hn =>
    simp only [Bool.and_eq_true, decide_eq_true_eq, beq_iff_eq] at hn
    obtain ⟨⟨-, hlast⟩, hstep⟩ := hn
    have hindex : (n - r.first) / r.stride ≤ (r.last - r.first) / r.stride :=
      Nat.div_le_div_right (by omega)
    have hoffset : (n - r.first) / r.stride * r.stride = n - r.first :=
      Nat.div_mul_cancel (Nat.dvd_of_mod_eq_zero hstep)
    refine List.mem_map.mpr ⟨(n - r.first) / r.stride, List.mem_range.mpr (by omega), ?_⟩
    rw [hoffset]
    exact Option.some.inj h
  · cases h

theorem bounds_of_mem_smalls {r : CaseRun} {n : Nat} (h : n ∈ r.smalls) : r.small ≤ n ∧ n ≤ r.top := by
  obtain ⟨i, hi, rfl⟩ := List.mem_map.mp h
  have hindex : i ≤ (r.last - r.first) / r.stride := by
    have := List.mem_range.mp hi
    omega
  have hoffset : i * r.stride ≤ r.last - r.first :=
    Nat.le_trans (Nat.mul_le_mul_right _ hindex) (Nat.div_mul_le_self _ _)
  rw [top]
  omega

/-- No capital of `q` lies among the small letters of `r`. -/
def clears (r q : CaseRun) : Bool :=
  Nat.blt q.last r.small || Nat.blt r.top q.first || r.smalls.all fun n => (q.small? n).isNone

theorem small?_eq_none_of_clears {r q : CaseRun} (h : r.clears q = true) {n : Nat} (hn : n ∈ r.smalls) :
    q.small? n = none := by
  obtain ⟨hlow, htop⟩ := bounds_of_mem_smalls hn
  have hout (hout : n < q.first ∨ q.last < n) : q.small? n = none := by
    rw [small?, if_neg]
    simp only [Bool.and_eq_true, decide_eq_true_eq]
    omega
  simp only [clears, Bool.or_eq_true, Nat.blt_eq, List.all_eq_true] at h
  rcases h with (h | h) | h
  · exact hout (.inr (by omega))
  · exact hout (.inl (by omega))
  · exact Option.isNone_iff_eq_none.mp (h n hn)

/-- The small letters of `r` are letters or digits. Mostly one range holds them all. -/
def isWordly (r : CaseRun) : Bool :=
  (alphanumericRanges.any fun q => Nat.ble q.1 r.small && Nat.ble r.top q.2) ||
    r.smalls.all fun n => alphanumericRanges.any fun q => Nat.ble q.1 n && Nat.ble n q.2

theorem exists_range_of_isWordly {r : CaseRun} (h : r.isWordly = true) {n : Nat} (hn : n ∈ r.smalls) :
    ∃ q ∈ alphanumericRanges, q.1 ≤ n ∧ n ≤ q.2 := by
  obtain ⟨hlow, htop⟩ := bounds_of_mem_smalls hn
  simp only [isWordly, Bool.or_eq_true, List.any_eq_true, List.all_eq_true, Bool.and_eq_true,
    Nat.ble_eq] at h
  rcases h with ⟨q, hq, hfirst, hlast⟩ | h
  · exact ⟨q, hq, by omega, by omega⟩
  · exact h n hn

/-- The small letters of `r` are characters, and the capital I with a dot is none of them. -/
def isPlain (r : CaseRun) : Bool :=
  (Nat.blt r.top 0x130 || Nat.blt 0x130 r.small) &&
    (Nat.blt r.top 0xD800 || Nat.blt 0xDFFF r.small && Nat.blt r.top 0x110000)

end CaseRun

theorem isWordly_caseRuns : caseRuns.all CaseRun.isWordly = true := by decide +kernel

theorem isPlain_caseRuns : caseRuns.all CaseRun.isPlain = true := by decide +kernel

theorem clears_caseRuns : caseRuns.all (fun r => caseRuns.all r.clears) = true := by decide +kernel

theorem toNat_ofNat_of_mem_smalls {r : CaseRun} (hr : r ∈ caseRuns) {n : Nat} (hn : n ∈ r.smalls) :
    (Char.ofNat n).toNat = n ∧ n ≠ 0x130 := by
  obtain ⟨hlow, htop⟩ := CaseRun.bounds_of_mem_smalls hn
  have hplain := List.all_eq_true.mp isPlain_caseRuns r hr
  simp only [CaseRun.isPlain, Bool.and_eq_true, Bool.or_eq_true, Nat.blt_eq] at hplain
  have hvalid : n.isValidChar := by
    rw [Nat.isValidChar]
    omega
  refine ⟨?_, by omega⟩
  rw [Char.ofNat, dif_pos hvalid]
  rfl

theorem findSome?_small?_of_mem_smalls {r : CaseRun} (hr : r ∈ caseRuns) {n : Nat}
    (hn : n ∈ r.smalls) : caseRuns.findSome? (·.small? n) = none := by
  rw [List.findSome?_eq_none_iff]
  intro q hq
  have hclears := List.all_eq_true.mp (List.all_eq_true.mp clears_caseRuns r hr) q hq
  exact CaseRun.small?_eq_none_of_clears hclears hn

/-- A character that has no small form or is one of the small letters. -/
theorem lowerCase_of_findSome? {c : Char} (hc : c ≠ '\u0130')
    (h : caseRuns.findSome? (·.small? c.toNat) = none) : lowerCase c = [c] := by
  rw [lowerCase, if_neg hc, h]
  rfl

/-- The small form of a letter or digit is one letter or digit, which stays as it is. -/
theorem lowerCase_of_isAlphanumeric {c : Char} (hc : isAlphanumeric c = true) (hi : c ≠ '\u0130') :
    ∃ l, lowerCase c = [l] ∧ isAlphanumeric l = true ∧ l ≠ '\u0130' ∧ lowerCase l = [l] := by
  cases h : caseRuns.findSome? (·.small? c.toNat) with
  | none =>
    have hlower := lowerCase_of_findSome? hi h
    exact ⟨c, hlower, hc, hi, hlower⟩
  | some n =>
    obtain ⟨r, hr, hsmall⟩ := List.exists_of_findSome?_eq_some h
    have hn := CaseRun.mem_smalls_of_small? hsmall
    obtain ⟨htoNat, hne⟩ := toNat_ofNat_of_mem_smalls hr hn
    have hl : Char.ofNat n ≠ '\u0130' := fun hl => hne (by rw [← htoNat, hl]; rfl)
    refine ⟨Char.ofNat n, ?_, ?_, hl, lowerCase_of_findSome? hl ?_⟩
    · rw [lowerCase, if_neg hi, h]
      rfl
    · have hwordly := List.all_eq_true.mp isWordly_caseRuns r hr
      rw [isAlphanumeric, inRanges_iff, htoNat]
      exact CaseRun.exists_range_of_isWordly hwordly hn
    · rw [htoNat]
      exact findSome?_small?_of_mem_smalls hr hn

/-- The small form of the capital I with a dot above has a mark in it. -/
theorem lowerCase_dottedI : lowerCase '\u0130' = ['i', '\u0307'] := rfl

end Exemplar.Text

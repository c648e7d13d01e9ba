import Exemplar.Proofs.Identifier.Words
import Exemplar.Proofs.Text.LowerCase

namespace Exemplar.Identifier

open Text (isAlphanumeric lowerCase lowerCase_of_isAlphanumeric lowerCase_dottedI)

/-- A character that stands in a word in lower case. -/
structure IsSmall (c : Char) : Prop where
  lower : lowerCase c = [c]
  word : isAlphanumeric c = true ∨ c = '\u0307'

theorem isAlphanumeric_underscore : isAlphanumeric '_' = false := by decide +kernel

theorem isAlphanumeric_dot : isAlphanumeric '\u0307' = false := by decide +kernel

theorem IsSmall.ne_underscore {c : Char} (h : IsSmall c) : c ≠ '_' := by
  rintro rfl
  rcases h.word with hword | hdot
  · rw [isAlphanumeric_underscore] at hword
    cases hword
  · exact absurd hdot (by decide)

theorem isSmall_of_mem_lowerCase {c l : Char} (hc : isAlphanumeric c = true) (hl : l ∈ lowerCase c) :
    IsSmall l := by
  by_cases hi : c = '\u0130'
  · rw [hi, lowerCase_dottedI] at hl
    simp only [List.mem_cons, List.not_mem_nil, or_false] at hl
    rcases hl with rfl | rfl
    · exact ⟨by decide +kernel, .inl (by decide +kernel)⟩
    · exact ⟨by decide +kernel, .inr rfl⟩
  · obtain ⟨s, hs, hword, -, hlower⟩ := lowerCase_of_isAlphanumeric hc hi
    obtain rfl : l = s := by simpa [hs] using hl
    exact ⟨hlower, .inl hword⟩

/-- The words of identifiers: at least one, none of them empty, and all in lower case. -/
structure AreSmall (ws : List (List Char)) : Prop where
  ne_nil : ws ≠ []
  nonempty : [] ∉ ws
  small : ∀ w ∈ ws, ∀ c ∈ w, IsSmall c

theorem lowerCase_of_mem_fallback {c : Char} (hc : c ∈ fallback.toList) :
    lowerCase c = [c] ∧ isAlphanumeric c = true := by
  have hall : (fallback.toList.all fun c => lowerCase c == [c] && isAlphanumeric c) = true := by
    decide +kernel
  simpa using List.all_eq_true.mp hall c hc

theorem areSmall_fallback : AreSmall [fallback.toList] where
  ne_nil := List.cons_ne_nil _ _
  nonempty := by decide
  small := by
    intro w hw c hc
    obtain rfl := List.mem_singleton.mp hw
    obtain ⟨hlower, hword⟩ := lowerCase_of_mem_fallback hc
    exact ⟨hlower, .inl hword⟩

theorem mem_of_mem_words {cs w : List Char} {c : Char} (hw : w ∈ words cs) (hc : c ∈ w) :
    c ∈ cs ∧ isAlphanumeric c = true := by
  have hflatten : c ∈ (words cs).flatten := List.mem_flatten.mpr ⟨w, hw, hc⟩
  rw [flatten_words] at hflatten
  exact List.mem_filter.mp hflatten

theorem exists_of_mem_lowered {parts : List String} {v : List Char} {l : Char}
    (hv : v ∈ (wordsOfAll parts).map (·.flatMap lowerCase)) (hl : l ∈ v) :
    ∃ part ∈ parts, ∃ c ∈ part.toList, isAlphanumeric c = true ∧ l ∈ lowerCase c := by
  obtain ⟨w, hw, rfl⟩ := List.mem_map.mp hv
  obtain ⟨c, hcw, hl⟩ := List.mem_flatMap.mp hl
  obtain ⟨part, hpart, hwords⟩ := List.mem_flatMap.mp hw
  obtain ⟨hc, hword⟩ := mem_of_mem_words hwords hcw
  exact ⟨part, hpart, c, hc, hword, hl⟩

theorem areSmall_lowered {parts : List String} (hne : wordsOfAll parts ≠ []) :
    AreSmall ((wordsOfAll parts).map (·.flatMap lowerCase)) where
  ne_nil := by simpa using hne
  nonempty := by
    intro hmem
    obtain ⟨w, hw, hnil⟩ := List.mem_map.mp hmem
    exact flatMap_lowerCase_ne_nil (ne_nil_of_mem_wordsOfAll hw) hnil
  small := by
    intro v hv l hl
    obtain ⟨part, -, c, -, hword, hlower⟩ := exists_of_mem_lowered hv hl
    exact isSmall_of_mem_lowerCase hword hlower

/-- An identifier is made of words in lower case, of letters and digits alone if no capital I with a dot
above goes into it. -/
theorem exists_areSmall (parts : List String) :
    ∃ ws, AreSmall ws ∧ (ofParts parts).toList = ['_'].intercalate ws ∧
      ((∀ part ∈ parts, '\u0130' ∉ part.toList) →
        ∀ w ∈ ws, ∀ l ∈ w, isAlphanumeric l = true) := by
  rw [ofParts_eq]
  split
  · refine ⟨_, areSmall_fallback, List.intercalate_singleton.symm, fun _ w hw l hl => ?_⟩
    obtain rfl := List.mem_singleton.mp hw
    exact (lowerCase_of_mem_fallback hl).2
  · next hne =>
    refine ⟨_, areSmall_lowered hne, toList_intercalate_lowered _, fun hi w hw l hl => ?_⟩
    obtain ⟨part, hpart, c, hc, hword, hlower⟩ := exists_of_mem_lowered hw hl
    have hne : c ≠ '\u0130' := fun h => hi part hpart (h ▸ hc)
    obtain ⟨s, hs, hsword, -⟩ := lowerCase_of_isAlphanumeric hword hne
    obtain rfl : l = s := by simpa [hs] using hlower
    exact hsword

theorem mem_of_mem_intercalate {ws : List (List Char)} {c : Char} (h : c ∈ ['_'].intercalate ws) :
    c = '_' ∨ ∃ w ∈ ws, c ∈ w := by
  induction ws with
  | nil => cases h
  | cons w ws ih =>
    rcases ws with _ | ⟨v, ws⟩
    · rw [List.intercalate_singleton] at h
      exact .inr ⟨w, List.mem_cons_self, h⟩
    · rw [List.intercalate_cons_cons, List.append_assoc, List.mem_append, List.mem_append,
        List.mem_singleton] at h
      rcases h with h | h | h
      · exact .inr ⟨w, List.mem_cons_self, h⟩
      · exact .inl h
      · exact (ih h).imp_right fun ⟨u, hu, hc⟩ => ⟨u, List.mem_cons_of_mem _ hu, hc⟩

theorem mem_intercalate_of_mem {ws : List (List Char)} {w : List Char} {c : Char} (hw : w ∈ ws)
    (hc : c ∈ w) : c ∈ ['_'].intercalate ws := by
  induction ws with
  | nil => cases hw
  | cons v ws ih =>
    rcases ws with _ | ⟨u, ws⟩
    · rw [List.intercalate_singleton]
      rwa [List.mem_singleton.mp hw] at hc
    · rw [List.intercalate_cons_cons, List.append_assoc, List.mem_append, List.mem_append]
      rcases List.mem_cons.mp hw with rfl | hw
      · exact .inl hc
      · exact .inr (.inr (ih hw))

/-- Splitting at the underscores gives the words back. -/
theorem AreSmall.splitOn {ws : List (List Char)} (h : AreSmall ws) :
    (['_'].intercalate ws).splitOn '_' = ws := by
  refine List.splitOn_intercalate '_' ?_ h.ne_nil
  intro w hw hmem
  exact (h.small w hw _ hmem).ne_underscore rfl

theorem splitOn_append_underscore (u v : List Char) :
    (u ++ '_' :: v).splitOn '_' = u.splitOn '_' ++ v.splitOn '_' :=
  List.splitOnP_append_cons u v rfl

/-- No text without an empty piece has an underscore at an end or two next to each other. -/
theorem AreSmall.single {ws : List (List Char)} (h : AreSmall ws) {cs : List Char}
    (hcs : cs = ['_'].intercalate ws) :
    cs ≠ [] ∧ cs.head? ≠ some '_' ∧ cs.getLast? ≠ some '_' ∧ ¬ ['_', '_'] <:+: cs := by
  have hpieces : [] ∉ cs.splitOn '_' := by
    rw [hcs, h.splitOn]
    exact h.nonempty
  refine ⟨?_, ?_, ?_, ?_⟩
  · rintro rfl
    exact hpieces List.mem_cons_self
  · intro hhead
    obtain ⟨v, rfl⟩ := List.head?_eq_some_iff.mp hhead
    apply hpieces
    rw [← List.nil_append ('_' :: v), splitOn_append_underscore]
    exact List.mem_append_left _ List.mem_cons_self
  · intro hlast
    obtain ⟨u, rfl⟩ := List.getLast?_eq_some_iff.mp hlast
    apply hpieces
    rw [splitOn_append_underscore]
    exact List.mem_append_right _ List.mem_cons_self
  · rintro ⟨u, v, rfl⟩
    apply hpieces
    rw [List.append_assoc, List.cons_append, List.singleton_append, splitOn_append_underscore,
      ← List.nil_append ('_' :: v), splitOn_append_underscore]
    exact List.mem_append_right _ (List.mem_append_left _ List.mem_cons_self)

/-- The words of words with underscores between them are these words again. -/
theorem words_intercalate {ws : List (List Char)} (hne : [] ∉ ws)
    (hword : ∀ w ∈ ws, ∀ c ∈ w, isAlphanumeric c = true) : words (['_'].intercalate ws) = ws := by
  induction ws with
  | nil => rfl
  | cons w ws ih =>
    obtain ⟨hw, hws⟩ := List.forall_mem_cons.mp hword
    obtain ⟨hwne, hwsne⟩ := not_or.mp (mt List.mem_cons.mpr hne)
    have hfirst := words_of_forall (Ne.symm hwne) hw
    rcases ws with _ | ⟨v, ws⟩
    · rw [List.intercalate_singleton, hfirst]
    · rw [List.intercalate_cons_cons, List.append_assoc, List.singleton_append,
        words_append_cons _ _ isAlphanumeric_underscore, hfirst, ih hwsne hws, List.singleton_append]

/-- The identifier consists of letters, digits and underscores. -/
def IsPlain (id : String) : Prop := ∀ c ∈ id.toList, isAlphanumeric c = true ∨ c = '_'

theorem lowerCase_of_mem_ofParts {parts : List String} {c : Char}
    (h : c ∈ (ofParts parts).toList) :
    lowerCase c = [c] ∧ (isAlphanumeric c = true ∨ c = '_' ∨ c = '\u0307') := by
  obtain ⟨ws, hws, hid, -⟩ := exists_areSmall parts
  rw [hid] at h
  rcases mem_of_mem_intercalate h with rfl | ⟨w, hw, hc⟩
  · exact ⟨by decide +kernel, .inr (.inl rfl)⟩
  · have hsmall := hws.small w hw c hc
    exact ⟨hsmall.lower, hsmall.word.imp_right .inr⟩

theorem mem_ofParts_of_mem_words {parts : List String} {part : String} (hpart : part ∈ parts)
    {w : List Char} (hw : w ∈ words part.toList) {c l : Char} (hc : c ∈ w) (hl : l ∈ lowerCase c) :
    l ∈ (ofParts parts).toList := by
  have hmem : w ∈ wordsOfAll parts := List.mem_flatMap.mpr ⟨part, hpart, hw⟩
  rw [ofParts_eq, if_neg (List.ne_nil_of_mem hmem), toList_intercalate_lowered]
  exact mem_intercalate_of_mem (List.mem_map.mpr ⟨w, hmem, rfl⟩) (List.mem_flatMap.mpr ⟨c, hc, hl⟩)

/-- A capital I with a dot above brings its dot into the identifier. -/
theorem dot_mem_ofParts {parts : List String} {part : String} (hpart : part ∈ parts)
    (hi : '\u0130' ∈ part.toList) : '\u0307' ∈ (ofParts parts).toList := by
  have hword : isAlphanumeric '\u0130' = true := by decide +kernel
  have hflatten : '\u0130' ∈ (words part.toList).flatten := by
    rw [flatten_words]
    exact List.mem_filter.mpr ⟨hi, hword⟩
  obtain ⟨w, hw, hiw⟩ := List.mem_flatten.mp hflatten
  exact mem_ofParts_of_mem_words hpart hw hiw (by simp [lowerCase_dottedI])

theorem isPlain_ofParts_iff {parts : List String} :
    IsPlain (ofParts parts) ↔ ∀ part ∈ parts, '\u0130' ∉ part.toList := by
  constructor
  · intro hplain part hpart hi
    rcases hplain _ (dot_mem_ofParts hpart hi) with hdot | hdot
    · rw [isAlphanumeric_dot] at hdot
      cases hdot
    · exact absurd hdot (by decide)
  · intro hi c hc
    obtain ⟨ws, -, hid, hword⟩ := exists_areSmall parts
    rw [hid] at hc
    rcases mem_of_mem_intercalate hc with hc | ⟨w, hw, hc⟩
    · exact .inr hc
    · exact .inl (hword hi w hw c hc)

theorem flatMap_lowerCase_of_forall {w : List Char} (h : ∀ c ∈ w, lowerCase c = [c]) :
    w.flatMap lowerCase = w := by
  induction w with
  | nil => rfl
  | cons c w ih =>
    obtain ⟨hc, hw⟩ := List.forall_mem_cons.mp h
    rw [List.flatMap_cons, hc, ih hw, List.singleton_append]

/-- A plain identifier is its own identifier. -/
theorem ofParts_singleton {parts : List String} (hplain : IsPlain (ofParts parts)) :
    ofParts [ofParts parts] = ofParts parts := by
  obtain ⟨ws, hws, hid, -⟩ := exists_areSmall parts
  have hword : ∀ w ∈ ws, ∀ c ∈ w, isAlphanumeric c = true := by
    intro w hw c hc
    have hmem : c ∈ (ofParts parts).toList := hid ▸ mem_intercalate_of_mem hw hc
    exact (hplain c hmem).resolve_right (hws.small w hw c hc).ne_underscore
  have hwords : wordsOfAll [ofParts parts] = ws := by
    rw [wordsOfAll, List.flatMap_singleton, hid, words_intercalate hws.nonempty hword]
  have hlower : ws.map (·.flatMap lowerCase) = ws := by
    refine (List.map_congr_left fun w hw => ?_).trans (List.map_id ws)
    exact flatMap_lowerCase_of_forall fun c hc => (hws.small w hw c hc).lower
  rw [← String.toList_inj, ofParts_eq [ofParts parts], hwords, if_neg hws.ne_nil,
    toList_intercalate_lowered, hlower, hid]

/-- Identifiers are never empty, have no underscore at either end and no two next to each other, and are in
lower case. They consist of letters, digits and underscores, and are identifiers of themselves, exactly if
no description has a capital I with a dot above; no other character but the dot of its small form can come
in. -/
theorem ofParts_canonical_iff (parts : List String) :
    (ofParts parts ≠ "" ∧ (ofParts parts).toList.head? ≠ some '_' ∧
        (ofParts parts).toList.getLast? ≠ some '_' ∧ ¬ ['_', '_'] <:+: (ofParts parts).toList) ∧
      (∀ c ∈ (ofParts parts).toList, lowerCase c = [c] ∧
        (isAlphanumeric c = true ∨ c = '_' ∨ c = '\u0307')) ∧
      (IsPlain (ofParts parts) ↔ ∀ part ∈ parts, '\u0130' ∉ part.toList) ∧
      (ofParts [ofParts parts] = ofParts parts ↔ ∀ part ∈ parts, '\u0130' ∉ part.toList) := by
  obtain ⟨ws, hws, hid, -⟩ := exists_areSmall parts
  obtain ⟨hne, hhead, hlast, hdouble⟩ := hws.single hid
  refine ⟨⟨by simpa using hne, hhead, hlast, hdouble⟩, fun _ => lowerCase_of_mem_ofParts,
    isPlain_ofParts_iff, ?_, fun hi => ofParts_singleton (isPlain_ofParts_iff.mpr hi)⟩
  intro hsame
  rw [← isPlain_ofParts_iff, ← hsame, isPlain_ofParts_iff]
  intro part hpart hi
  obtain rfl := List.mem_singleton.mp hpart
  obtain ⟨hlower, -⟩ := lowerCase_of_mem_ofParts hi
  exact absurd hlower (by decide)

/-- The dot stays behind, and the identifier of what comes out is without it. -/
theorem not_canonical_ofParts_dottedI :
    ofParts ["\u0130"] = "i\u0307" ∧ ofParts ["i\u0307"] = "i" ∧
      ¬ IsPlain (ofParts ["\u0130"]) ∧ ofParts [ofParts ["\u0130"]] ≠ ofParts ["\u0130"] := by
  have hi : ¬ ∀ part ∈ ["\u0130"], '\u0130' ∉ part.toList := by decide
  obtain ⟨-, -, hplain, hsame⟩ := ofParts_canonical_iff ["\u0130"]
  exact ⟨by decide +kernel, by decide +kernel, mt hplain.mp hi, mt hsame.mp hi⟩

end Exemplar.Identifier

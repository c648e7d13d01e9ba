import Exemplar.Config.Guess
import Mathlib.Data.List.DropRight
import Mathlib.Data.List.TakeWhile

namespace Exemplar

namespace Text

theorem trimBlank_sublist (cs : List Char) : (trimBlank cs).Sublist cs :=
  (List.rdropWhile_prefix isBlank (cs.dropWhile isBlank)).sublist.trans (List.dropWhile_sublist _)

theorem eq_or_shorter_of_sublist {cs ds : List Char} (h : cs.Sublist ds) :
    cs = ds ∨ cs.length < ds.length :=
  h.length_le.eq_or_lt.imp h.eq_of_length id

/-- Text without blanks around it does not begin with a blank. -/
theorem dropWhile_of_trimmed {cs : List Char} (h : trimBlank cs = cs) : cs.dropWhile isBlank = cs := by
  apply (List.dropWhile_sublist _).eq_of_length_le
  have hle := (List.rdropWhile_prefix isBlank (cs.dropWhile isBlank)).length_le
  change (trimBlank cs).length ≤ _ at hle
  rwa [h] at hle

/-- Text without blanks around it has no end of blanks. -/
theorem eq_nil_of_trimmed {cs tail : List Char} (h : trimBlank cs = cs) (hsuffix : tail <:+ cs)
    (hblank : ∀ c ∈ tail, isBlank c = true) : tail = [] := by
  by_contra hne
  have hcs : cs ≠ [] := hsuffix.ne_nil hne
  have hself : cs.rdropWhile isBlank = cs := by
    have ht : (cs.dropWhile isBlank).rdropWhile isBlank = cs := h
    rwa [dropWhile_of_trimmed h] at ht
  apply List.rdropWhile_eq_self_iff.mp hself hcs
  rw [← hsuffix.getLast hne]
  exact hblank _ (List.getLast_mem hne)

end Text

namespace Guess

open Text Text.Toml

theorem isBlank_of_isAsciiBlank {c : Char} (h : isAsciiBlank c = true) : isBlank c = true := by
  simp only [isAsciiBlank, Bool.or_eq_true, beq_iff_eq] at h
  rcases h with (((rfl | rfl) | rfl) | rfl) | rfl <;> rfl

theorem skipAsciiBlanks_of_trimmed {cs : List Char} (h : trimBlank cs = cs) :
    skipAsciiBlanks cs = cs := by
  have hself := List.dropWhile_eq_self_iff.mp (dropWhile_of_trimmed h)
  apply List.dropWhile_eq_self_iff.mpr
  intro hlt hblank
  exact hself hlt (isBlank_of_isAsciiBlank hblank)

/-- What is left of text without blanks around it is not blank. -/
theorem eq_nil_of_skipAsciiBlanks {cs tail : List Char} (h : trimBlank cs = cs) (hsuffix : tail <:+ cs)
    (hskip : skipAsciiBlanks tail = []) : tail = [] :=
  eq_nil_of_trimmed h hsuffix fun c hc =>
    isBlank_of_isAsciiBlank (List.dropWhile_eq_nil_iff.mp hskip c hc)

/-- The text begins like a list, an object or a quotation. -/
def opens (cs : List Char) : Bool :=
  cs.head?.any fun c => c == '[' || c == '{' || c == '"' || c == '\''

/-- The rules by which one value is read, by what the text begins with. -/
inductive ReadAs (cs : List Char) : SourceValue → List Char → Prop
  | truth {word tail : List Char} (hword : word = "true".toList ∨ word = "false".toList)
    (htext : cs = word ++ tail) : ReadAs cs .other (skipAsciiBlanks tail)
  | enclosed {value : SourceValue} {rest : List Char} (hopens : opens cs = true)
    (hshorter : ∀ s, value = .text s → s.toList.length < cs.length) : ReadAs cs value rest
  | word {word : List Char} (hopens : opens cs = false)
    (hword : word = cs.takeWhile fun c => !isSeparator c) :
    ReadAs cs (plain (trimBlank word)) (skipAsciiBlanks (cs.drop word.length))

theorem length_prepend {c : Char} {r : List Char × List Char} {s rest : List Char} {n : Nat}
    (h : prepend c r = (s, rest)) (hr : r.1.length + r.2.length < n) :
    s.length + rest.length < n + 1 := by
  cases h
  simp only [List.length_cons]
  omega

theorem length_escaped {ch? : Option Char} {read : Option (List Char × List Char)}
    {s rest : List Char} {n : Nat}
    (ih : ∀ {s rest}, read = some (s, rest) → s.length + rest.length < n)
    (h : (do let ch ← ch?; return prepend ch (← read)) = some (s, rest)) :
    s.length + rest.length < n + 1 := by
  obtain ⟨ch, -, h⟩ := Option.bind_eq_some_iff.mp h
  obtain ⟨r, hr, h⟩ := Option.bind_eq_some_iff.mp h
  exact length_prepend (Option.some.inj h) (ih hr)

/-- The closing quote is no part of a string, and an escape is longer than its character. -/
theorem length_readBasic {cs s rest : List Char} (h : readBasic cs = some (s, rest)) :
    s.length + rest.length < cs.length := by
  fun_induction readBasic cs generalizing s rest with
  | case1 => cases h
  | case2 tail =>
    cases h
    simp
  | case3 a b c d tail ih =>
    have hlt := length_escaped ih h
    simp only [List.length_cons]
    omega
  | case4 a b c d e f g k tail ih =>
    have hlt := length_escaped ih h
    simp only [List.length_cons]
    omega
  | case5 e tail _ _ ih =>
    have hlt := length_escaped ih h
    simp only [List.length_cons]
    omega
  | case6 c tail _ _ _ _ _ ih =>
    obtain ⟨r, hr, h⟩ := Option.map_eq_some_iff.mp h
    exact length_prepend h (ih hr)
  | case7 => cases h

theorem readAs_of_readValue {n : Nat} {cs rest : List Char} {value : SourceValue}
    (h : readValue n cs = some (value, rest)) : ReadAs (skipAsciiBlanks cs) value rest := by
  cases n with
  | zero => simp [readValue] at h
  | succ n =>
    rw [readValue] at h
    split at h
    next tail heq =>
      cases h
      exact .truth (.inl rfl) heq
    next tail heq =>
      cases h
      exact .truth (.inr rfl) heq
    next tail heq =>
      obtain ⟨⟨v, r⟩, hv, h⟩ := Option.bind_eq_some_iff.mp h
      obtain ⟨r', -, hr⟩ := Option.map_eq_some_iff.mp hv
      cases hr
      cases h
      exact .enclosed (by rw [heq]; rfl) nofun
    next tail heq =>
      obtain ⟨⟨v, r⟩, hv, h⟩ := Option.bind_eq_some_iff.mp h
      obtain ⟨r', -, hr⟩ := Option.map_eq_some_iff.mp hv
      cases hr
      cases h
      exact .enclosed (by rw [heq]; rfl) nofun
    next tail heq =>
      obtain ⟨⟨v, r⟩, hv, h⟩ := Option.bind_eq_some_iff.mp h
      obtain ⟨⟨s, r'⟩, hs, hr⟩ := Option.map_eq_some_iff.mp hv
      cases hr
      cases h
      refine .enclosed (by rw [heq]; rfl) ?_
      intro s' hs'
      cases hs'
      have hlt := length_readBasic hs
      rw [heq, String.toList_ofList, List.length_cons]
      omega
    next c tail heq =>
      cases h
      refine .enclosed (by rw [heq]; rfl) ?_
      intro s' hs'
      cases hs'
      rw [heq, String.toList_ofList]
      simp
    next => cases h
    next _ _ hbrace hbracket hquote _ hmark =>
      cases h
      refine .word ?_ rfl
      cases hcs : skipAsciiBlanks cs with
      | nil => rfl
      | cons c tail =>
        have hc : c ≠ '[' ∧ c ≠ '{' ∧ c ≠ '"' ∧ c ≠ '\'' := by
          refine ⟨?_, ?_, ?_, ?_⟩ <;> rintro rfl
          · exact hbracket _ hcs
          · exact hbrace _ hcs
          · exact hquote _ hcs
          · exact hmark _ hcs
        simp [opens, hc]

/-- Text that begins like nothing else is read as a word. -/
theorem readValue_word {n : Nat} {cs word : List Char} (hskip : skipAsciiBlanks cs = cs)
    (hopens : opens cs = false) (ht : cs.head? ≠ some 't') (hf : cs.head? ≠ some 'f')
    (hword : word = cs.takeWhile fun c => !isSeparator c) :
    readValue (n + 1) cs = some (plain (trimBlank word), skipAsciiBlanks (cs.drop word.length)) := by
  subst hword
  rw [readValue, hskip]
  split
  next heq => exact absurd rfl ht
  next heq => exact absurd rfl hf
  next => cases hopens
  next => cases hopens
  next => cases hopens
  next => cases hopens
  next => cases hopens
  next => rfl

/-- Characters of which numbers are made. -/
def isNumberChar (c : Char) : Bool :=
  c.isDigit || c == '+' || c == '-' || c == '.' || c == 'e' || c == 'E'

theorem isNumberChar_of_isDigit {c : Char} (h : c.isDigit = true) : isNumberChar c = true := by
  simp [isNumberChar, h]

theorem forall_isNumberChar_of_isDigits {cs : List Char} (h : isDigits cs = true) :
    ∀ c ∈ cs, isNumberChar c = true := by
  simp only [isDigits, Bool.and_eq_true, List.all_eq_true] at h
  exact fun c hc => isNumberChar_of_isDigit (h.2 c hc)

theorem forall_isNumberChar_of_dropSign {cs : List Char}
    (h : ∀ c ∈ dropSign cs, isNumberChar c = true) : ∀ c ∈ cs, isNumberChar c = true := by
  unfold dropSign at h
  split at h
  · exact List.forall_mem_cons.mpr ⟨rfl, h⟩
  · exact List.forall_mem_cons.mpr ⟨rfl, h⟩
  · exact h

theorem forall_isNumberChar_of_drop {cs : List Char}
    (h : ∀ c ∈ cs.drop (cs.takeWhile Char.isDigit).length, isNumberChar c = true) :
    ∀ c ∈ cs, isNumberChar c = true := by
  rw [← List.prefix_iff_eq_append.mp (List.takeWhile_prefix Char.isDigit (l := cs))]
  apply List.forall_mem_append.mpr ⟨?_, h⟩
  exact fun c hc => isNumberChar_of_isDigit (List.mem_takeWhile_imp hc)

theorem forall_isNumberChar_of_isPointNumber {cs : List Char} (h : isPointNumber cs = true) :
    ∀ c ∈ cs, isNumberChar c = true := by
  apply forall_isNumberChar_of_dropSign
  apply forall_isNumberChar_of_drop
  simp only [isPointNumber] at h
  split at h
  next tail heq =>
    rw [heq]
    refine List.forall_mem_cons.mpr ⟨rfl, forall_isNumberChar_of_drop ?_⟩
    simp only [Bool.and_eq_true] at h
    split at h
    next hend =>
      rw [hend]
      exact List.forall_mem_nil _
    next e exponent hend =>
      simp only [Bool.and_eq_true, Bool.or_eq_true, beq_iff_eq] at h
      obtain ⟨-, he, hdigits⟩ := h
      rw [hend]
      refine List.forall_mem_cons.mpr ⟨?_, forall_isNumberChar_of_dropSign
        (forall_isNumberChar_of_isDigits hdigits)⟩
      rcases he with rfl | rfl <;> rfl
  next => cases h

theorem forall_isNumberChar_of_isWholeNumber {cs : List Char} (h : isWholeNumber cs = true) :
    ∀ c ∈ cs, isNumberChar c = true := by
  unfold isWholeNumber at h
  split at h
  all_goals simp only [Bool.and_eq_true] at h
  · exact List.forall_mem_cons.mpr ⟨rfl, forall_isNumberChar_of_isDigits h.1⟩
  · exact List.forall_mem_cons.mpr ⟨rfl, forall_isNumberChar_of_isDigits h.1⟩
  · exact forall_isNumberChar_of_isDigits h.1

/-- A number is read as a whole. -/
theorem readValue_number {n : Nat} {cs : List Char} (htrim : trimBlank cs = cs)
    (h : ∀ c ∈ cs, isNumberChar c = true) : readValue (n + 1) cs = some (plain cs, []) := by
  have hne {c d : Char} (hc : c ∈ cs) (hd : isNumberChar d = false) : c ≠ d := by
    rintro rfl
    rw [h c hc] at hd
    cases hd
  have hhead {d : Char} (hd : isNumberChar d = false) : cs.head? ≠ some d :=
    fun heq => hne (List.mem_of_head? heq) hd rfl
  have hopens : opens cs = false := by
    rw [opens]
    cases hc : cs.head? with
    | none => rfl
    | some c =>
      have hc' := List.mem_of_head? hc
      simp [hne hc' (d := '[') rfl, hne hc' (d := '{') rfl, hne hc' (d := '"') rfl,
        hne hc' (d := '\'') rfl]
  have hword : cs = cs.takeWhile fun c => !isSeparator c := by
    refine (List.takeWhile_eq_self_iff.mpr fun c hc => ?_).symm
    simp [isSeparator, hne hc (d := ',') rfl, hne hc (d := '{') rfl, hne hc (d := '}') rfl,
      hne hc (d := '[') rfl, hne hc (d := ']') rfl]
  rw [readValue_word (skipAsciiBlanks_of_trimmed htrim) hopens (hhead rfl) (hhead rfl) hword, htrim,
    List.drop_length]
  rfl

theorem plain_eq_text_iff {cs : List Char} {s : String} :
    plain cs = .text s ↔
      (isPointNumber cs = false ∧ isWholeNumber cs = false) ∧ String.ofList cs = s := by
  rw [plain]
  split
  next h =>
    simp only [reduceCtorEq, false_iff]
    rintro ⟨⟨hp, hw⟩, -⟩
    simp [hp, hw] at h
  next h => simpa using fun _ => h

/-- Text that is read is part of the text, and shorter if it stood in quotes. -/
theorem ReadAs.text {cs rest : List Char} {s : String} (h : ReadAs cs (.text s) rest) :
    s.toList.length < cs.length ∨ opens cs = false ∧ s.toList.Sublist cs := by
  generalize hvalue : SourceValue.text s = value at h
  cases h with
  | truth => cases hvalue
  | enclosed _ hshorter => exact .inl (hshorter s hvalue.symm)
  | @word word hopens hword =>
    refine .inr ⟨hopens, ?_⟩
    rw [← (plain_eq_text_iff.mp hvalue.symm).2, String.toList_ofList, hword]
    exact (trimBlank_sublist _).trans (List.takeWhile_sublist _)

theorem text_of_readValue {n : Nat} {cs rest : List Char} {s : String}
    (h : readValue n cs = some (.text s, rest)) :
    s.toList = cs ∨ s.toList.length < cs.length := by
  have hskip : (skipAsciiBlanks cs).Sublist cs := List.dropWhile_sublist _
  rcases (readAs_of_readValue h).text with hlt | ⟨-, hsub⟩
  · exact .inr (hlt.trans_le hskip.length_le)
  · exact eq_or_shorter_of_sublist (hsub.trans hskip)

/-- The value of a text that is text again was read, or no rule applied. -/
theorem cases_of_value {text s : String} (h : value text = .text s) :
    let cs := trimBlank text.toList
    isBareList cs = false ∧ isTruthValue cs = false ∧
      (readValue (2 * cs.length + 2) cs = some (.text s, []) ∨
        (∀ v, readValue (2 * cs.length + 2) cs ≠ some (v, [])) ∧ s.toList = cs) := by
  intro cs
  rw [value] at h
  split at h
  next => cases h
  next hrule =>
    simp only [Bool.or_eq_true, not_or, Bool.not_eq_true] at hrule
    refine ⟨hrule.1, hrule.2, ?_⟩
    split at h
    next v hread =>
      subst h
      exact .inl hread
    next hread =>
      refine .inr ⟨hread, ?_⟩
      rw [← SourceValue.text.inj h, String.toList_ofList]

/-- What a text stands for is the text itself, or it is shorter or no text. -/
theorem eq_or_shorter_of_value {text s : String} (h : value text = .text s) :
    s = text ∨ s.toList.length < text.toList.length := by
  have hsub := trimBlank_sublist text.toList
  have hs : s.toList = trimBlank text.toList ∨
      s.toList.length < (trimBlank text.toList).length := by
    obtain ⟨-, -, hread | ⟨-, hs⟩⟩ := cases_of_value h
    · exact text_of_readValue hread
    · exact .inl hs
  rcases hs with hs | hlt
  · rw [← hs] at hsub
    exact (eq_or_shorter_of_sublist hsub).imp_left String.toList_inj.mp
  · exact .inr (hlt.trans_le hsub.length_le)

/-- Text to which no rule applies: there are no blanks around it, it is no list, truth value or number,
and no list, object or quotation that ends where the text does. -/
structure Literal (cs : List Char) : Prop where
  trimmed : trimBlank cs = cs
  notBareList : isBareList cs = false
  notTruthValue : isTruthValue cs = false
  notNumber : isPointNumber cs = false ∧ isWholeNumber cs = false
  notEnclosed : opens cs = true → ∀ v, readValue (2 * cs.length + 2) cs ≠ some (v, [])

theorem literal_of_value {text : String} (h : value text = .text text) : Literal text.toList := by
  have hrules := cases_of_value h
  have htrim : trimBlank text.toList = text.toList := by
    have hsub := trimBlank_sublist text.toList
    obtain ⟨-, -, hread | ⟨-, htext⟩⟩ := hrules
    · rcases text_of_readValue hread with heq | hlt
      · exact heq.symm
      · exact absurd hsub.length_le (Nat.not_le.mpr hlt)
    · exact htext.symm
  rw [htrim] at hrules
  obtain ⟨hlist, htruth, hread⟩ := hrules
  refine ⟨htrim, hlist, htruth, ?_, ?_⟩
  · -- a number would have been read as one
    by_contra hnumber
    have hall : ∀ c ∈ text.toList, isNumberChar c = true := by
      rw [not_and_or, Bool.not_eq_false, Bool.not_eq_false] at hnumber
      rcases hnumber with hp | hw
      · exact forall_isNumberChar_of_isPointNumber hp
      · exact forall_isNumberChar_of_isWholeNumber hw
    have hwhole := readValue_number (n := 2 * text.toList.length + 1) htrim hall
    rcases hread with hread | ⟨hnone, -⟩
    · rw [hwhole] at hread
      exact hnumber (plain_eq_text_iff.mp (Prod.mk.inj (Option.some.inj hread)).1).1
    · exact hnone _ hwhole
  · intro hopens v hv
    rcases hread with hread | ⟨hnone, -⟩
    · -- what stands in quotes is shorter than the text around it
      have has := readAs_of_readValue hread
      rw [skipAsciiBlanks_of_trimmed htrim] at has
      rcases has.text with hlt | ⟨hnot, -⟩
      · exact Nat.lt_irrefl _ hlt
      · rw [hopens] at hnot
        cases hnot
    · exact hnone v hv

/-- Text that is read to its end begins like a list, an object or a quotation, or it is a truth value
or a word. -/
theorem Literal.readValue {n : Nat} {cs : List Char} (h : Literal cs) {v : SourceValue}
    (hopens : opens cs = false) (hread : readValue n cs = some (v, [])) :
    v = .text (String.ofList cs) := by
  have has := readAs_of_readValue hread
  rw [skipAsciiBlanks_of_trimmed h.trimmed] at has
  generalize hrest : ([] : List Char) = rest at has
  cases has with
  | @truth word tail hword htext =>
    have htail := eq_nil_of_skipAsciiBlanks h.trimmed ⟨word, htext.symm⟩ hrest.symm
    have htruth : isTruthValue cs = true := by
      rw [htext, htail, List.append_nil]
      rcases hword with rfl | rfl <;> rfl
    rw [h.notTruthValue] at htruth
    cases htruth
  | enclosed hopens' _ =>
    rw [hopens] at hopens'
    cases hopens'
  | @word word _ hword =>
    have hdrop := eq_nil_of_skipAsciiBlanks h.trimmed (List.drop_suffix _ _) hrest.symm
    have hcs := List.prefix_iff_eq_append.mp
      (List.takeWhile_prefix (l := cs) fun c => !isSeparator c)
    rw [← hword, hdrop, List.append_nil] at hcs
    rw [hcs, h.trimmed]
    exact plain_eq_text_iff.mpr ⟨h.notNumber, rfl⟩

/-- A text stands for itself exactly if no rule applies to it. -/
theorem value_eq_text_iff {text : String} : value text = .text text ↔ Literal text.toList := by
  refine ⟨literal_of_value, fun h => ?_⟩
  rw [value, h.trimmed]
  simp only [h.notBareList, h.notTruthValue, Bool.or_self, Bool.false_eq_true, if_false]
  split
  next v hread =>
    cases hopens : opens text.toList with
    | true => exact absurd hread (h.notEnclosed hopens v)
    | false => rw [h.readValue hopens hread, String.ofList_toList]
  next => rw [String.ofList_toList]

end Guess

end Exemplar

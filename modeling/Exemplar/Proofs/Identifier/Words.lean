import Exemplar.Identifier.Basic

namespace Exemplar.Identifier

open Text (isAlphanumeric lowerCase)

/-- The words of a text, from left to right. A word is followed by the end of the text or by something
that belongs to no word, so that it is as long as can be. -/
inductive WordsOf : List Char → List (List Char) → Prop
  | gap {gap : List Char} (hgap : ∀ c ∈ gap, isAlphanumeric c = false) : WordsOf gap []
  | word {gap word rest : List Char} {ws : List (List Char)}
    (hgap : ∀ c ∈ gap, isAlphanumeric c = false) (hne : word ≠ [])
    (hword : ∀ c ∈ word, isAlphanumeric c = true)
    (hrest : ∀ c ∈ rest.head?, isAlphanumeric c = false) (h : WordsOf rest ws) :
    WordsOf (gap ++ (word ++ rest)) (word :: ws)

/-- A word without a gap in front of it. -/
theorem WordsOf.first {word rest : List Char} {ws : List (List Char)} (hne : word ≠ [])
    (hword : ∀ c ∈ word, isAlphanumeric c = true)
    (hrest : ∀ c ∈ rest.head?, isAlphanumeric c = false) (h : WordsOf rest ws) :
    WordsOf (word ++ rest) (word :: ws) :=
  .word (List.forall_mem_nil _) hne hword hrest h

/-- The words of a text: what stands between the characters that belong to no word, as far as anything
stands there. -/
def words (cs : List Char) : List (List Char) :=
  (cs.splitOnP (!isAlphanumeric ·)).filter (!·.isEmpty)

theorem words_append_cons (u v : List Char) {c : Char} (hc : isAlphanumeric c = false) :
    words (u ++ c :: v) = words u ++ words v := by
  have hgap : (!isAlphanumeric c) = true := by simp [hc]
  rw [words, List.splitOnP_append_cons u v hgap, List.filter_append]
  rfl

theorem words_cons (v : List Char) {c : Char} (hc : isAlphanumeric c = false) :
    words (c :: v) = words v := words_append_cons [] v hc

theorem words_of_forall {w : List Char} (hne : w ≠ []) (hw : ∀ c ∈ w, isAlphanumeric c = true) :
    words w = [w] := by
  have hsplit : w.splitOnP (!isAlphanumeric ·) = [w] :=
    List.splitOnP_eq_singleton fun c hc => by simp [hw c hc]
  rw [words, hsplit]
  simp [hne]

theorem words_gap_append {gap : List Char} (v : List Char)
    (hgap : ∀ c ∈ gap, isAlphanumeric c = false) : words (gap ++ v) = words v := by
  induction gap with
  | nil => rfl
  | cons c gap ih =>
    obtain ⟨hc, hgap⟩ := List.forall_mem_cons.mp hgap
    rw [List.cons_append, words_cons _ hc, ih hgap]

theorem WordsOf.eq_words {cs : List Char} {ws : List (List Char)} (h : WordsOf cs ws) :
    ws = words cs := by
  induction h with
  | @gap gap hgap => rw [← List.append_nil gap, words_gap_append [] hgap]; rfl
  | @word gap word rest ws hgap hne hword hrest _ ih =>
    rw [words_gap_append _ hgap, ih]
    cases rest with
    | nil => rw [List.append_nil, words_of_forall hne hword]; rfl
    | cons c rest =>
      have hc : isAlphanumeric c = false := hrest c rfl
      rw [words_append_cons _ _ hc, words_of_forall hne hword, words_cons _ hc, List.singleton_append]

theorem exists_wordsOf (cs : List Char) : ∃ ws, WordsOf cs ws := by
  induction cs with
  | nil => exact ⟨[], .gap (by simp)⟩
  | cons c cs ih =>
    obtain ⟨ws, h⟩ := ih
    rcases hc : isAlphanumeric c with _ | _
    · -- the gap in front gets longer
      cases h with
      | gap hgap => exact ⟨[], .gap (List.forall_mem_cons.mpr ⟨hc, hgap⟩)⟩
      | word hgap hne hword hrest h =>
        exact ⟨_, .word (List.forall_mem_cons.mpr ⟨hc, hgap⟩) hne hword hrest h⟩
    · have hsingle : ∀ x ∈ [c], isAlphanumeric x = true := by simpa
      cases h with
      | gap hgap =>
        have hhead : ∀ x ∈ cs.head?, isAlphanumeric x = false :=
          fun x hx => hgap x (List.mem_of_mem_head? hx)
        exact ⟨[[c]], .first (List.cons_ne_nil c []) hsingle hhead (.gap hgap)⟩
      | @word gap word rest ws hgap hne hword hrest h =>
        rcases gap with _ | ⟨x, gap⟩
        · -- the first word gets longer
          have hlonger : ∀ x ∈ c :: word, isAlphanumeric x = true :=
            List.forall_mem_cons.mpr ⟨hc, hword⟩
          exact ⟨_, .first (List.cons_ne_nil c word) hlonger hrest h⟩
        · -- a word of one character, behind which the gap of before follows
          refine ⟨_, .first (List.cons_ne_nil c []) hsingle ?_ (.word hgap hne hword hrest h)⟩
          rintro y ⟨⟩
          exact hgap x List.mem_cons_self

/-- The words hold all letters and digits of the text, in order, and nothing else. -/
theorem flatten_words (cs : List Char) : (words cs).flatten = cs.filter isAlphanumeric := by
  obtain ⟨ws, h⟩ := exists_wordsOf cs
  rw [← h.eq_words]
  induction h with
  | gap hgap => simpa [List.filter_eq_nil_iff] using hgap
  | @word gap word rest ws hgap hne hword _ _ ih =>
    have hskipped : gap.filter isAlphanumeric = [] := by simpa [List.filter_eq_nil_iff] using hgap
    have hkept : word.filter isAlphanumeric = word := List.filter_eq_self.mpr hword
    rw [List.filter_append, List.filter_append, hskipped, hkept, List.flatten_cons, ih]
    rfl

theorem ne_nil_of_mem_words {cs w : List Char} (h : w ∈ words cs) : w ≠ [] := by
  simpa using (List.mem_filter.mp h).2

theorem words_eq_nil_iff {cs : List Char} :
    words cs = [] ↔ ∀ c ∈ cs, isAlphanumeric c = false := by
  constructor
  · intro h
    have hfilter := flatten_words cs
    rw [h, List.flatten_nil] at hfilter
    simpa [List.filter_eq_nil_iff] using hfilter.symm
  · intro h
    rw [← List.append_nil cs, words_gap_append [] h]
    rfl

theorem wordsOf_iff {cs : List Char} {ws : List (List Char)} : WordsOf cs ws ↔ ws = words cs := by
  constructor
  · exact WordsOf.eq_words
  · rintro rfl
    obtain ⟨ws, h⟩ := exists_wordsOf cs
    rwa [← h.eq_words]

namespace Draft

theorem foldl_add_gap {gap : List Char} (hgap : ∀ c ∈ gap, isAlphanumeric c = false) (d : Draft) :
    (gap.foldl add d).written = d.written ∧
      (d.gap = true → (gap.foldl add d).gap = true) := by
  induction gap generalizing d with
  | nil => exact ⟨rfl, id⟩
  | cons c gap ih =>
    obtain ⟨hc, hgap⟩ := List.forall_mem_cons.mp hgap
    have hadd : d.add c = { d with gap := true } := by rw [add, hc]; rfl
    rw [List.foldl_cons, hadd]
    obtain ⟨hwritten, hnoted⟩ := ih hgap { d with gap := true }
    exact ⟨hwritten, fun _ => hnoted rfl⟩

/-- Behind its first character a word is written without a separator. -/
theorem foldl_add_closed {word : List Char} (hword : ∀ c ∈ word, isAlphanumeric c = true)
    (out : List Char) :
    word.foldl add ⟨out, false⟩ = ⟨out ++ word.flatMap lowerCase, false⟩ := by
  induction word generalizing out with
  | nil => simp
  | cons c word ih =>
    obtain ⟨hc, hword⟩ := List.forall_mem_cons.mp hword
    have hadd : add ⟨out, false⟩ c = ⟨out ++ lowerCase c, false⟩ := by simp [add, hc]
    rw [List.foldl_cons, hadd, ih hword, List.flatMap_cons, List.append_assoc]

end Draft

/-- One more word behind what is written. -/
def appendWord (out word : List Char) : List Char :=
  out ++ (if out.isEmpty then [] else ['_']) ++ word.flatMap lowerCase

namespace Draft

/-- A word that comes after a gap, or first of all. -/
theorem foldl_add_word {word : List Char} (hne : word ≠ [])
    (hword : ∀ c ∈ word, isAlphanumeric c = true) {d : Draft}
    (hd : d.gap = true ∨ d.written = []) :
    word.foldl add d = ⟨appendWord d.written word, false⟩ := by
  obtain ⟨c, word, rfl⟩ := List.exists_cons_of_ne_nil hne
  obtain ⟨hc, hword⟩ := List.forall_mem_cons.mp hword
  have hseparator : (if d.gap && !d.written.isEmpty then ['_'] else []) =
      if d.written.isEmpty then [] else ['_'] := by
    rcases hd with hd | hd <;> cases h : d.written.isEmpty <;> simp_all
  have hadd : d.add c =
      ⟨d.written ++ (if d.written.isEmpty then [] else ['_']) ++ lowerCase c, false⟩ := by
    rw [add, if_pos hc, ← hseparator]
  rw [List.foldl_cons, hadd, foldl_add_closed hword, appendWord, List.flatMap_cons]
  simp only [List.append_assoc]

/-- In front of something that belongs to no word it does not matter whether a gap has been noted. -/
theorem foldl_add_of_head {rest : List Char}
    (hrest : ∀ c ∈ rest.head?, isAlphanumeric c = false) (out : List Char) :
    (rest.foldl add ⟨out, false⟩).written = (rest.foldl add ⟨out, true⟩).written := by
  cases rest with
  | nil => rfl
  | cons c rest =>
    have hc : isAlphanumeric c = false := hrest c rfl
    simp only [List.foldl_cons, add, hc]
    rfl

theorem written_foldl_add {cs : List Char} {ws : List (List Char)} (h : WordsOf cs ws) {d : Draft}
    (hd : d.gap = true ∨ d.written = []) :
    (cs.foldl add d).written = ws.foldl appendWord d.written := by
  induction h generalizing d with
  | gap hgap => exact (foldl_add_gap hgap d).1
  | @word gap word rest ws hgap hne hword hrest _ ih =>
    obtain ⟨hwritten, hnoted⟩ := foldl_add_gap hgap d
    have hafter : (gap.foldl add d).gap = true ∨ (gap.foldl add d).written = [] :=
      hd.imp hnoted hwritten.trans
    rw [List.foldl_append, List.foldl_append, foldl_add_word hne hword hafter, hwritten,
      foldl_add_of_head hrest, ih (.inl rfl), List.foldl_cons]

theorem written_foldl_addPart (parts : List String) {d : Draft}
    (hd : d.gap = true ∨ d.written = []) :
    (parts.foldl addPart d).written =
      (parts.flatMap fun part => words part.toList).foldl appendWord d.written := by
  induction parts generalizing d with
  | nil => rfl
  | cons part parts ih =>
    have hwords : WordsOf part.toList (words part.toList) := wordsOf_iff.mpr rfl
    have hpart := written_foldl_add hwords hd
    rw [List.foldl_cons, ih (.inl rfl), List.flatMap_cons, List.foldl_append, ← hpart]
    rfl

end Draft

/-- The words of descriptions, those of the first description first. -/
def wordsOfAll (parts : List String) : List (List Char) :=
  parts.flatMap fun part => words part.toList

theorem wordsOfAll_eq_nil_iff {parts : List String} :
    wordsOfAll parts = [] ↔ ∀ part ∈ parts, ∀ c ∈ part.toList, isAlphanumeric c = false := by
  simp only [wordsOfAll, List.flatMap_eq_nil_iff, words_eq_nil_iff]

theorem ne_nil_of_mem_wordsOfAll {parts : List String} {w : List Char} (h : w ∈ wordsOfAll parts) :
    w ≠ [] := by
  obtain ⟨part, -, hw⟩ := List.mem_flatMap.mp h
  exact ne_nil_of_mem_words hw

/-- A word in lower case, character by character. -/
def lowered (w : List Char) : String := String.ofList (w.flatMap lowerCase)

theorem lowerCase_ne_nil (c : Char) : lowerCase c ≠ [] := by
  rw [lowerCase]
  split <;> simp

theorem flatMap_lowerCase_ne_nil {w : List Char} (hne : w ≠ []) : w.flatMap lowerCase ≠ [] := by
  obtain ⟨c, w, rfl⟩ := List.exists_cons_of_ne_nil hne
  simp [lowerCase_ne_nil]

theorem toList_intercalate_lowered (ws : List (List Char)) :
    ("_".intercalate (ws.map lowered)).toList = ['_'].intercalate (ws.map (·.flatMap lowerCase)) := by
  have hmap : (ws.map lowered).map String.toList = ws.map (·.flatMap lowerCase) := by
    simp [lowered, Function.comp_def]
  rw [String.toList_intercalate, hmap]
  rfl

theorem intercalate_append (u v : List Char) (rest : List (List Char)) :
    ['_'].intercalate ((u ++ v) :: rest) = u ++ ['_'].intercalate (v :: rest) := by
  cases rest with
  | nil => simp
  | cons w rest => simp [List.intercalate_cons_cons]

theorem intercalate_cons_ne_nil {u : List Char} (hne : u ≠ []) (rest : List (List Char)) :
    ['_'].intercalate (u :: rest) ≠ [] := by
  cases rest with
  | nil => simpa using hne
  | cons w rest => simp [List.intercalate_cons_cons]

theorem foldl_appendWord {out : List Char} (hne : out ≠ []) (ws : List (List Char)) :
    ws.foldl appendWord out = ['_'].intercalate (out :: ws.map (·.flatMap lowerCase)) := by
  induction ws generalizing out with
  | nil => simp
  | cons w ws ih =>
    have happend : appendWord out w = (out ++ ['_']) ++ w.flatMap lowerCase := by
      simp [appendWord, hne]
    rw [List.foldl_cons, ih (by simp [happend]), happend, intercalate_append, List.map_cons,
      List.intercalate_cons_cons]

/-- The pass writes the words in lower case, with one underscore between two. -/
theorem written_parts (parts : List String) :
    (parts.foldl Draft.addPart .start).written =
      ("_".intercalate ((wordsOfAll parts).map lowered)).toList := by
  have hstart : Draft.start.gap = true ∨ Draft.start.written = [] := .inr rfl
  rw [Draft.written_foldl_addPart parts hstart, toList_intercalate_lowered]
  have hnonempty : ∀ w ∈ wordsOfAll parts, w ≠ [] := fun _ => ne_nil_of_mem_wordsOfAll
  rw [← wordsOfAll, Draft.start]
  rcases h : wordsOfAll parts with _ | ⟨w, ws⟩
  · rfl
  · have hne : w.flatMap lowerCase ≠ [] :=
      flatMap_lowerCase_ne_nil (hnonempty w (h ▸ List.mem_cons_self))
    exact foldl_appendWord hne ws

theorem ofParts_eq (parts : List String) :
    ofParts parts = if wordsOfAll parts = [] then fallback
      else "_".intercalate ((wordsOfAll parts).map lowered) := by
  rw [ofParts, written_parts]
  rcases h : wordsOfAll parts with _ | ⟨w, ws⟩
  · rfl
  · have hne : ("_".intercalate ((w :: ws).map lowered)).toList ≠ [] := by
      have hw : w.flatMap lowerCase ≠ [] :=
        flatMap_lowerCase_ne_nil (ne_nil_of_mem_wordsOfAll (h ▸ List.mem_cons_self))
      rw [toList_intercalate_lowered]
      exact intercalate_cons_ne_nil hw _
    rw [if_neg (List.cons_ne_nil w ws)]
    split
    · next hnil => exact absurd hnil hne
    · exact String.ofList_toList

/-- Nothing but the words of the descriptions counts for the identifier. -/
theorem ofParts_congr {parts others : List String} (h : wordsOfAll others = wordsOfAll parts) :
    ofParts others = ofParts parts := by
  rw [ofParts_eq, ofParts_eq, h]

theorem wordsOfAll_append (parts more : List String) :
    wordsOfAll (parts ++ more) = wordsOfAll parts ++ wordsOfAll more := by
  rw [wordsOfAll, List.flatMap_append]
  rfl

theorem wordsOfAll_cons (part : String) (parts : List String) :
    wordsOfAll (part :: parts) = words part.toList ++ wordsOfAll parts := by
  rw [wordsOfAll, List.flatMap_cons]
  rfl

/-- A gap inside a text parts words as the end of a text does. -/
theorem words_append_gap (u v : List Char) {gap : List Char} (hne : gap ≠ [])
    (hgap : ∀ c ∈ gap, isAlphanumeric c = false) :
    words (u ++ (gap ++ v)) = words u ++ words v := by
  obtain ⟨c, gap, rfl⟩ := List.exists_cons_of_ne_nil hne
  obtain ⟨hc, hgap⟩ := List.forall_mem_cons.mp hgap
  rw [List.cons_append, words_append_cons _ _ hc, words_gap_append _ hgap]

/-- The identifier of descriptions is `example` if they have no letter and no digit, and else their
words in order, each in lower case, with one underscore between two. So it makes no difference whether a
description without words stands among them, nor what parts two words: a gap inside a description, of
whatever length and of whatever characters, or the end of one description and the beginning of the
next. -/
theorem ofParts_eq_intercalate (parts : List String) :
    ((∀ part ∈ parts, ∀ c ∈ part.toList, isAlphanumeric c = false) → ofParts parts = "example") ∧
      ((∃ part ∈ parts, ∃ c ∈ part.toList, isAlphanumeric c = true) →
        ofParts parts = "_".intercalate ((wordsOfAll parts).map lowered)) ∧
      (∀ part ∈ parts, ∀ ws, WordsOf part.toList ws ↔ ws = words part.toList) ∧
      (∀ others, wordsOfAll others = wordsOfAll parts → ofParts others = ofParts parts) ∧
      (∀ before part after, parts = before ++ part :: after →
        (∀ c ∈ part.toList, isAlphanumeric c = false) →
        ofParts parts = ofParts (before ++ after)) ∧
      ∀ before u gap v after, parts = before ++ (u ++ gap ++ v) :: after → gap ≠ "" →
        (∀ c ∈ gap.toList, isAlphanumeric c = false) →
        ofParts parts = ofParts (before ++ u :: v :: after) := by
  refine ⟨fun hnone => ?_, ?_, fun _ _ _ => wordsOf_iff, fun _ h => ofParts_congr h, ?_, ?_⟩
  · rw [ofParts_eq, if_pos (wordsOfAll_eq_nil_iff.mpr hnone), fallback]
  · rintro ⟨part, hpart, c, hc, hword⟩
    have hne : wordsOfAll parts ≠ [] := by
      intro hnil
      exact Bool.false_ne_true ((wordsOfAll_eq_nil_iff.mp hnil part hpart c hc).symm.trans hword)
    rw [ofParts_eq, if_neg hne]
  · rintro before part after rfl hpart
    apply ofParts_congr
    rw [wordsOfAll_append, wordsOfAll_append, wordsOfAll_cons, words_eq_nil_iff.mpr hpart,
      List.nil_append]
  · rintro before u gap v after rfl hne hgap
    have hgapne : gap.toList ≠ [] := by simpa using hne
    apply ofParts_congr
    simp only [wordsOfAll_append, wordsOfAll_cons, String.toList_append, List.append_assoc,
      words_append_gap _ _ hgapne hgap]

/-- A description of symbols only, a gap of two characters inside another one, and a capital whose small
form is two characters. -/
theorem ofParts_eq_intercalate_gaps :
    let parts := ["--", "Zwei (İ4)", "Größe"]
    ofParts parts = "zwei_i\u03074_größe" ∧ ofParts parts = ofParts ["Zwei (İ4)", "Größe"] ∧
      ofParts parts = ofParts ["--", "Zwei", "İ4)", "Größe"] := by
  intro parts
  obtain ⟨-, hjoined, -, -, hsymbols, hgap⟩ := ofParts_eq_intercalate parts
  have hdashes : words "--".toList = [] := by decide +kernel
  have hbracket : words " (".toList = [] := by decide +kernel
  refine ⟨?_, hsymbols [] "--" _ rfl (words_eq_nil_iff.mp hdashes), ?_⟩
  · rw [hjoined ⟨"Größe", by simp [parts], 'G', by simp, by decide +kernel⟩]
    decide +kernel
  · exact hgap ["--"] "Zwei" " (" "İ4)" ["Größe"] rfl (by decide) (words_eq_nil_iff.mp hbracket)

end Exemplar.Identifier

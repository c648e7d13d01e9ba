import Exemplar.TypeName
import Mathlib.Data.List.Basic

/-! Full names of types as a compiler writes them: a path of segments, of which the last is the name of
the type itself. A segment may be told by whole types in angle brackets, and so paths stand inside paths.
The short name of a type is that of its last segment as long as no bracket stands in front of it, and
empty otherwise. -/

namespace Exemplar.TypeName

/-- A name that was given in a declaration. Neither of the characters that structure a path is in it. -/
structure Ident where
  text : String
  ne_empty : text ≠ ""
  plain : ∀ c ∈ text.toList, c ≠ ':' ∧ c ≠ '<'

mutual

/-- What stands in front of a name in a path. -/
inductive Segment where
  | name (i : Ident)
  | closure
  /-- The type taken as an implementation of the trait. -/
  | cast (type trait : Path)
  /-- The implementation of the trait for the type. -/
  | implementation (trait type : Path)

/-- The full name of a type: segments, its own name, and the types to which it is applied. -/
inductive Path where
  | path (front : List Segment) (last : Ident) (args : List Path)

end

/-- How a segment without a name is written. -/
def closureText : List Char := "\x7b\x7bclosure\x7d\x7d".toList

def asText : List Char := " as ".toList

def implText : List Char := "impl ".toList

def forText : List Char := " for ".toList

mutual

def Segment.spell : Segment → List Char
  | .name i => i.text.toList
  | .closure => closureText
  | .cast type trait => '<' :: (type.spell ++ asText ++ trait.spell ++ ['>'])
  | .implementation trait type =>
    '<' :: (implText ++ trait.spell ++ forText ++ type.spell ++ ['>'])

def Path.spell : Path → List Char
  | .path front last args => spellFront front ++ last.text.toList ++ spellArgs args

/-- Every segment in front of a name ends in a double colon. -/
def spellFront : List Segment → List Char
  | [] => []
  | s :: front => s.spell ++ [':', ':'] ++ spellFront front

def spellArgs : List Path → List Char
  | [] => []
  | p :: args => '<' :: (p.spell ++ spellMore args)

/-- The types behind the first one, up to the closing bracket. -/
def spellMore : List Path → List Char
  | [] => ['>']
  | p :: args => [',', ' '] ++ p.spell ++ spellMore args

end

/-- The full name as a text. -/
def Path.full (p : Path) : String := String.ofList p.spell

/-- The name of the type itself. -/
def Path.ident : Path → Ident
  | .path _ last _ => last

def Path.front : Path → List Segment
  | .path front _ _ => front

/-- The segment is told by types in angle brackets. -/
def Segment.isQualified : Segment → Bool
  | .cast .. | .implementation .. => true
  | .name _ | .closure => false

theorem afterLastColons?_cons_of_some {cs name : List Char} (h : afterLastColons? cs = some name)
    (c : Char) : afterLastColons? (c :: cs) = some name := by
  simp only [afterLastColons?, h]

theorem afterLastColons?_of_plain {cs : List Char} (h : ∀ c ∈ cs, c ≠ ':') :
    afterLastColons? cs = none := by
  induction cs with
  | nil => rfl
  | cons c cs ih =>
    obtain ⟨hc, hcs⟩ := List.forall_mem_cons.mp h
    simp only [afterLastColons?, ih hcs]
    split
    · exact absurd rfl hc
    · rfl

/-- A name without colons that stands behind a double colon is what follows the last one. -/
theorem afterLastColons?_append_colons (before : List Char) {name : List Char}
    (h : ∀ c ∈ name, c ≠ ':') : afterLastColons? (before ++ ':' :: ':' :: name) = some name := by
  induction before with
  | nil =>
    have hname : afterLastColons? (':' :: name) = none := by
      simp only [afterLastColons?, afterLastColons?_of_plain h]
      split
      · exact absurd rfl (h ':' List.mem_cons_self)
      · rfl
    rw [List.nil_append, afterLastColons?.eq_def]
    simp only [hname]
  | cons c before ih => exact afterLastColons?_cons_of_some ih c

theorem spellFront_append (front more : List Segment) :
    spellFront (front ++ more) = spellFront front ++ spellFront more := by
  induction front with
  | nil => rfl
  | cons s front ih => simp only [List.cons_append, spellFront, ih, List.append_assoc]

/-- Whatever is in front of a name, if anything, ends in a double colon. -/
theorem spellFront_eq (front : List Segment) :
    spellFront front = [] ∨ ∃ before, spellFront front = before ++ [':', ':'] := by
  rcases List.eq_nil_or_concat front with rfl | ⟨front', s, rfl⟩
  · exact .inl rfl
  · refine .inr ⟨spellFront front' ++ s.spell, ?_⟩
    rw [List.concat_eq_append, spellFront_append]
    simp only [spellFront, List.append_nil, List.append_assoc]

theorem ne_bracket_of_mem_spell {s : Segment} (hs : s.isQualified = false) :
    ∀ c ∈ s.spell, c ≠ '<' := by
  cases s with
  | name i =>
    intro c hc
    exact (i.plain c (by simpa only [Segment.spell] using hc)).2
  | closure =>
    have hnone : closureText.contains '<' = false := by decide
    intro c hc
    rw [Segment.spell] at hc
    rintro rfl
    rw [List.contains_iff_mem.mpr hc] at hnone
    cases hnone
  | cast type trait => cases hs
  | implementation trait type => cases hs

theorem ne_bracket_of_mem_spellFront {front : List Segment}
    (h : ∀ s ∈ front, s.isQualified = false) : ∀ c ∈ spellFront front, c ≠ '<' := by
  induction front with
  | nil => simp [spellFront]
  | cons s front ih =>
    obtain ⟨hs, hfront⟩ := List.forall_mem_cons.mp h
    rw [spellFront]
    refine List.forall_mem_append.mpr ⟨List.forall_mem_append.mpr ⟨?_, by simp⟩, ih hfront⟩
    exact ne_bracket_of_mem_spell hs

/-- A qualified segment begins with a bracket. -/
theorem spell_of_isQualified {s : Segment} (h : s.isQualified = true) :
    ∃ rest, s.spell = '<' :: rest := by
  cases s with
  | cast type trait => exact ⟨_, by rw [Segment.spell]⟩
  | implementation trait type => exact ⟨_, by rw [Segment.spell]⟩
  | _ => cases h

theorem head?_spellArgs (args : List Path) : ∀ c ∈ (spellArgs args).head?, c = '<' := by
  cases args with
  | nil => simp [spellArgs]
  | cons p args => simp [spellArgs]

/-- Up to the first bracket there are segments and perhaps a name, and this name is the short one. -/
theorem short_spellFront {front : List Segment} (hfront : ∀ s ∈ front, s.isQualified = false)
    {name rest : List Char} (hname : ∀ c ∈ name, c ≠ ':' ∧ c ≠ '<')
    (hrest : ∀ c ∈ rest.head?, c = '<') :
    short (String.ofList (spellFront front ++ name ++ rest)) = String.ofList name := by
  have hhead : ∀ c ∈ spellFront front ++ name, c ≠ '<' :=
    List.forall_mem_append.mpr ⟨ne_bracket_of_mem_spellFront hfront, fun c hc => (hname c hc).2⟩
  have hstop : rest.takeWhile (· ≠ '<') = [] := by
    cases rest with
    | nil => rfl
    | cons c rest =>
      obtain rfl : c = '<' := hrest c rfl
      rfl
  have hpath : (spellFront front ++ name ++ rest).takeWhile (· ≠ '<') = spellFront front ++ name := by
    rw [List.takeWhile_append_of_pos (by simpa using hhead), hstop, List.append_nil]
  have hplain : ∀ c ∈ name, c ≠ ':' := fun c hc => (hname c hc).1
  have hlast : (afterLastColons? (spellFront front ++ name)).getD (spellFront front ++ name) = name := by
    rcases spellFront_eq front with hnil | ⟨before, hcolons⟩
    · rw [hnil, List.nil_append, afterLastColons?_of_plain hplain]
      rfl
    · rw [hcolons, List.append_assoc]
      simp only [List.cons_append, List.nil_append, afterLastColons?_append_colons before hplain,
        Option.getD_some]
  simp only [short, String.toList_ofList, hpath, hlast]

/-- No bracket stands in front of the name of the type, and this name is found. -/
theorem short_of_plain {p : Path} (h : ∀ s ∈ p.front, s.isQualified = false) :
    short p.full = p.ident.text := by
  obtain ⟨front, last, args⟩ := p
  have hshort := short_spellFront h last.plain (head?_spellArgs args)
  rw [String.ofList_toList] at hshort
  rw [Path.full, Path.spell]
  exact hshort

/-- The first qualified segment cuts the path off behind a double colon, and nothing is left. -/
theorem short_of_qualified {p : Path} (h : ∃ s ∈ p.front, s.isQualified = true) :
    short p.full = "" := by
  obtain ⟨front, last, args⟩ := p
  have hfirst : ∃ before s after, front = before ++ s :: after ∧ s.isQualified = true ∧
      ∀ s' ∈ before, s'.isQualified = false := by
    have hfind : (front.find? Segment.isQualified).isSome := List.find?_isSome.mpr h
    obtain ⟨s, hfind⟩ := Option.isSome_iff_exists.mp hfind
    obtain ⟨hs, before, after, rfl, hbefore⟩ := List.find?_eq_some_iff_append.mp hfind
    exact ⟨before, s, after, rfl, hs, by simpa using hbefore⟩
  obtain ⟨before, s, after, rfl, hs, hbefore⟩ := hfirst
  obtain ⟨inner, hinner⟩ := spell_of_isQualified hs
  have hspell : (Path.path (before ++ s :: after) last args).spell = spellFront before ++ [] ++
      '<' :: (inner ++ [':', ':'] ++ spellFront after ++ last.text.toList ++ spellArgs args) := by
    rw [Path.spell, spellFront_append, spellFront, hinner]
    simp only [List.append_assoc, List.cons_append, List.nil_append, List.append_nil]
  rw [Path.full, hspell]
  exact short_spellFront hbefore (by simp) (by simp)

/-- The short name of a type is the name that it was given exactly if no segment in front of it is
told by types in angle brackets. Otherwise it is empty. -/
theorem short_full_eq_iff (p : Path) :
    (short p.full = p.ident.text ↔ ∀ s ∈ p.front, s.isQualified = false) ∧
      (short p.full = "" ↔ ∃ s ∈ p.front, s.isQualified = true) := by
  have hne := p.ident.ne_empty
  by_cases h : ∃ s ∈ p.front, s.isQualified = true
  · have hempty := short_of_qualified h
    have hnot : ¬ ∀ s ∈ p.front, s.isQualified = false := by
      intro hall
      obtain ⟨s, hs, hq⟩ := h
      rw [hall s hs] at hq
      cases hq
    rw [hempty]
    exact ⟨iff_of_false hne.symm hnot, iff_of_true rfl h⟩
  · have hall : ∀ s ∈ p.front, s.isQualified = false := by
      intro s hs
      by_contra hq
      exact h ⟨s, hs, eq_true_of_ne_false hq⟩
    rw [short_of_plain hall]
    exact ⟨iff_of_true rfl hall, iff_of_false hne h⟩

/-- A type that is declared in a method of a trait has no short name. -/
theorem not_short_full_method :
    let ident (text : String) (h : text ≠ "" ∧ ∀ c ∈ text.toList, c ≠ ':' ∧ c ≠ '<') : Ident :=
      ⟨text, h.1, h.2⟩
    let plain : Path := .path [.name (ident "app" (by simp))] (ident "Plain" (by simp)) []
    let maker : Path := .path [.name (ident "app" (by simp))] (ident "Maker" (by simp)) []
    let p : Path := .path [.cast plain maker, .name (ident "make" (by simp))]
      (ident "ImplLocal" (by simp)) []
    p.full = "<app::Plain as app::Maker>::make::ImplLocal" ∧ short p.full = "" ∧
      short p.full ≠ p.ident.text := by
  intro ident plain maker p
  obtain ⟨hname, hempty⟩ := short_full_eq_iff p
  refine ⟨by decide, hempty.mpr ⟨_, List.mem_cons_self, rfl⟩, fun h => ?_⟩
  have hplain : (Segment.cast plain maker).isQualified = false := hname.mp h _ List.mem_cons_self
  cases hplain

end Exemplar.TypeName

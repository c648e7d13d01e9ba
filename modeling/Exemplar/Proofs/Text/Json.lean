import Mathlib.Data.List.TakeWhile
import Exemplar.Text.Json.Reader
import Exemplar.Text.Json.Writer

namespace Exemplar.Text.Json

/-- The piece stands for the character: it is the character, or the escape of one that has no shorter
way to be written. -/
inductive Spells : Piece → Char → Prop
  | char (c : Char) : Spells (.char c) c
  | unit {c : Char} (h : c.toNat < 0x20) : Spells (.unit c.toNat) c

theorem Spells.content_cons {p : Piece} {c : Char} (h : Spells p c) (pieces : List Piece) :
    content (p :: pieces) = (content pieces).map (c :: ·) := by
  cases h with
  | char => rfl
  | unit h =>
    -- neither half of a surrogate pair is that small
    have hhigh : isHighUnit c.toNat = false := by
      rw [isHighUnit, decide_eq_false (by omega), Bool.false_and]
    have hlow : isLowUnit c.toNat = false := by
      rw [isLowUnit, decide_eq_false (by omega), Bool.false_and]
    have hchar : Char.ofNat c.toNat = c := Char.ofNat_toNat c
    rcases pieces with _ | ⟨_ | low, pieces⟩
    · simp [content, hhigh, hlow, hchar]
    · simp [content, hhigh, hlow, hchar]
    · rw [content, hhigh, hlow, hchar]
      rfl

theorem hexNumber?_hexDigit : ∀ n < 0x20,
    hexNumber? ['0', '0', hexDigit (n / 16), hexDigit (n % 16)] = some n := by
  decide

theorem readPieces_shortEscape {e c : Char} (hu : e ≠ 'u') (h : shortEscape? e = some c)
    (cs : List Char) :
    readPieces ('\\' :: e :: cs) = (readPieces cs).map fun read => (.char c :: read.1, read.2) := by
  rw [readPieces.eq_4 _ _ fun _ _ _ _ _ he => absurd he hu, h]
  cases readPieces cs <;> rfl

theorem readPieces_char {c : Char} (hquote : c ≠ '"') (hslash : c ≠ '\\') (hc : ¬ c.toNat < 0x20)
    (cs : List Char) :
    readPieces (c :: cs) = (readPieces cs).map fun read => (.char c :: read.1, read.2) := by
  rw [readPieces.eq_5 _ _ hquote (fun _ _ _ _ _ h => absurd h hslash) fun _ _ h => absurd h hslash]
  rw [if_neg (by simp [hc, hslash])]
  cases readPieces cs <;> rfl

/-- What is written for a character is read as one piece that stands for it. -/
theorem readPieces_escapeChar (c : Char) (cs : List Char) :
    ∃ p, Spells p c ∧
      readPieces (escapeChar c ++ cs) = (readPieces cs).map fun read => (p :: read.1, read.2) := by
  unfold escapeChar
  split_ifs with hquote hslash hb hf hn hr ht hunit
  -- the seven characters with a short escape, then the other control characters, then the rest
  iterate 7
    · subst c
      exact ⟨_, .char _, readPieces_shortEscape (by decide) rfl cs⟩
  · refine ⟨_, .unit hunit, ?_⟩
    simp only [List.cons_append, List.nil_append]
    rw [readPieces, hexNumber?_hexDigit c.toNat hunit]
    cases readPieces cs <;> rfl
  · exact ⟨_, .char c, readPieces_char hquote hslash hunit cs⟩

/-- A text is read back up to its closing quote. -/
theorem readText_flatMap_escapeChar (s : String) (rest : List Char) :
    readText (s.toList.flatMap escapeChar ++ '"' :: rest) = some (some s, rest) := by
  have hpieces (cs : List Char) : ∃ pieces, content pieces = some cs ∧
      readPieces (cs.flatMap escapeChar ++ '"' :: rest) = some (pieces, rest) := by
    induction cs with
    | nil => exact ⟨[], rfl, by simp [readPieces]⟩
    | cons c cs ih =>
      obtain ⟨pieces, hcontent, hread⟩ := ih
      obtain ⟨p, hp, hescape⟩ := readPieces_escapeChar c (cs.flatMap escapeChar ++ '"' :: rest)
      refine ⟨p :: pieces, ?_, ?_⟩
      · rw [hp.content_cons, hcontent, Option.map_some]
      · rw [List.flatMap_cons, List.append_assoc, hescape, hread, Option.map_some]
  obtain ⟨pieces, hcontent, hread⟩ := hpieces s.toList
  rw [readText, hread]
  simp [hcontent]

/-- The text does not go on with a number. -/
def EndsNumber (rest : List Char) : Prop :=
  ∀ c ∈ rest.head?, c.isDigit = false ∧ c ≠ '.' ∧ c ≠ 'e' ∧ c ≠ 'E'

theorem endsNumber_nil : EndsNumber [] := by
  intro c hc
  cases hc

theorem endsNumber_cons {c : Char} (h : c = ',' ∨ c = ']' ∨ c = '}') (rest : List Char) :
    EndsNumber (c :: rest) := by
  intro c' hc'
  obtain rfl : c = c' := Option.some.inj hc'
  rcases h with rfl | rfl | rfl <;> decide

theorem readDigits_append {ds rest : List Char} (hne : ds ≠ []) (hds : ∀ d ∈ ds, d.isDigit = true)
    (h : EndsNumber rest) : readDigits (ds ++ rest) = some (ds, rest) := by
  have htake : rest.takeWhile Char.isDigit = [] := by
    cases rest with
    | nil => rfl
    | cons c rest => rw [List.takeWhile_cons_of_neg (by simp [(h c rfl).1])]
  have hdrop : rest.dropWhile Char.isDigit = rest := by
    cases rest with
    | nil => rfl
    | cons c rest => rw [List.dropWhile_cons_of_neg (by simp [(h c rfl).1])]
  rw [readDigits, List.takeWhile_append_of_pos hds, List.dropWhile_append_of_pos hds, htake, hdrop,
    List.append_nil]
  cases ds with
  | nil => exact absurd rfl hne
  | cons d ds => rfl

theorem readFraction_of_endsNumber {rest : List Char} (h : EndsNumber rest) :
    readFraction rest = some ([], rest) := by
  cases rest with
  | nil => rfl
  | cons c rest =>
    rw [readFraction]
    intro rest' heq
    exact absurd (List.cons.inj heq).1 (h c rfl).2.1

theorem readExponent_of_endsNumber {rest : List Char} (h : EndsNumber rest) :
    readExponent rest = some ([], rest) := by
  cases rest with
  | nil => rfl
  | cons c rest =>
    obtain ⟨-, -, he, hE⟩ := h c rfl
    simp [readExponent, he, hE]

theorem isDigit_of_mem_toDigits {n : Nat} : ∀ d ∈ Nat.toDigits 10 n, d.isDigit = true :=
  fun _ hd => Nat.isDigit_of_mem_toDigits (by decide) (by decide) hd

theorem toDigits_eq_cons (n : Nat) : ∃ d ds, Nat.toDigits 10 n = d :: ds ∧ d.isDigit = true := by
  obtain ⟨d, ds, hd⟩ := List.exists_cons_of_ne_nil (Nat.toDigits_ne_nil (n := n) (b := 10))
  exact ⟨d, ds, hd, isDigit_of_mem_toDigits d (hd ▸ List.mem_cons_self)⟩

/-- The digits of a number that is not zero do not start with a zero. -/
theorem eq_zero_of_toDigits_eq_cons {n : Nat} {ds : List Char} (h : Nat.toDigits 10 n = '0' :: ds) :
    n = 0 := by
  induction n using Nat.strongRecOn generalizing ds with
  | ind n ih =>
    by_cases hn : n < 10
    · have hdigit : ∀ m < 10, Nat.digitChar m = '0' → m = 0 := by decide
      rw [Nat.toDigits_of_lt_base hn] at h
      exact hdigit n hn (List.cons.inj h).1
    · -- the first digit is that of a tenth, which is not zero either
      obtain ⟨d, ds', hd, -⟩ := toDigits_eq_cons (n / 10)
      rw [Nat.toDigits_of_base_le (by decide) (by omega), hd, List.cons_append] at h
      obtain ⟨rfl, -⟩ := List.cons.inj h
      have hzero := ih (n / 10) (by omega) hd
      omega

theorem readWhole_toDigits (n : Nat) {rest : List Char} (h : EndsNumber rest) :
    readWhole (Nat.toDigits 10 n ++ rest) = some (Nat.toDigits 10 n, rest) := by
  by_cases hn : n = 0
  · subst hn
    rfl
  · rw [readWhole, readDigits_append Nat.toDigits_ne_nil isDigit_of_mem_toDigits h]
    intro ds hds
    obtain ⟨d, ds', hd, -⟩ := toDigits_eq_cons n
    rw [hd, List.cons_append] at hds
    obtain ⟨rfl, -⟩ := List.cons.inj hds
    exact hn (eq_zero_of_toDigits_eq_cons hd)

theorem readUnsigned_toDigits (n : Nat) {rest : List Char} (h : EndsNumber rest) :
    readUnsigned (Nat.toDigits 10 n ++ rest) = some (Nat.toDigits 10 n, rest) := by
  rw [readUnsigned, readWhole_toDigits n h]
  simp [readFraction_of_endsNumber h, readExponent_of_endsNumber h]

theorem readValue_digit {d : Char} (hd : d.isDigit = true) (fuel : Nat) (cs : List Char) :
    readValue (fuel + 1) (d :: cs) =
      (readUnsigned (d :: cs)).map fun read => (.number read.1, read.2) := by
  rw [readValue]
  all_goals
    intro rest heq
    obtain ⟨rfl, -⟩ := List.cons.inj heq
    exact absurd hd (by decide)

/-- The values that the library writes: every text has its characters, every number is a whole one. -/
inductive Plain : Json → Prop
  | null : Plain .null
  | bool (b : Bool) : Plain (.bool b)
  | ofNat (n : Nat) : Plain (.ofNat n)
  | ofString (s : String) : Plain (.ofString s)
  | array {items : List Json} (h : ∀ item ∈ items, Plain item) : Plain (.array items)
  | object {members : List (Option String × Json)} (hkeys : ∀ m ∈ members, m.1.isSome)
    (h : ∀ m ∈ members, Plain m.2) : Plain (.object members)

theorem Plain.ofMembers {members : List (String × Json)} (h : ∀ m ∈ members, m.2.Plain) :
    (Json.ofMembers members).Plain := by
  refine .object ?_ ?_
  · intro m hm
    obtain ⟨m', -, rfl⟩ := List.mem_map.mp hm
    rfl
  · intro m hm
    obtain ⟨m', hm', rfl⟩ := List.mem_map.mp hm
    exact h m' hm'

theorem skipSpace_cons {c : Char} (h : isSpace c = false) (cs : List Char) :
    skipSpace (c :: cs) = c :: cs :=
  List.dropWhile_cons_of_neg (by simp [h])

theorem isSpace_of_isDigit {c : Char} (h : c.isDigit = true) : isSpace c = false := by
  by_contra hspace
  simp only [isSpace, Bool.not_eq_false, Bool.or_eq_true, beq_iff_eq] at hspace
  rcases hspace with ((rfl | rfl) | rfl) | rfl <;> exact absurd h (by decide)

/-- Wherever the value was written it is read, if readers may call each other often enough. It is never
written with a blank or a closing bracket in front, so the reader does not take it for anything else. -/
structure ReadsBack (j : Json) : Prop where
  write_eq_cons : ∃ c cs, j.write = c :: cs ∧ isSpace c = false ∧ c ≠ ']'
  readValue_write : ∀ (fuel : Nat) (rest : List Char), 2 * j.write.length ≤ fuel → EndsNumber rest →
    readValue (fuel + 1) (j.write ++ rest) = some (j, rest)

theorem ReadsBack.skipSpace_write {j : Json} (h : j.ReadsBack) (rest : List Char) :
    skipSpace (j.write ++ rest) = j.write ++ rest := by
  obtain ⟨c, cs, hwrite, hc, -⟩ := h.write_eq_cons
  rw [hwrite, List.cons_append, skipSpace_cons hc]

theorem readItems_last {fuel : Nat} {cs rest : List Char} {item : Json}
    (h : readValue fuel cs = some (item, ']' :: rest)) :
    readItems (fuel + 1) cs = some ([item], rest) := by
  rw [readItems, h]
  simp [skipSpace_cons (c := ']') rfl]

theorem readItems_more {fuel : Nat} {cs more rest : List Char} {item : Json} {items : List Json}
    (h : readValue fuel cs = some (item, ',' :: more))
    (hmore : readItems fuel (skipSpace more) = some (items, rest)) :
    readItems (fuel + 1) cs = some (item :: items, rest) := by
  rw [readItems, h]
  simp [skipSpace_cons (c := ',') rfl, hmore]

theorem writeItems_cons (item : Json) {items : List Json} (hne : items ≠ []) :
    writeItems (item :: items) = item.write ++ ',' :: writeItems items := by
  rw [writeItems]
  exact hne

theorem writeItems_eq_cons {items : List Json} (hne : items ≠ [])
    (h : ∀ item ∈ items, item.ReadsBack) :
    ∃ c cs, writeItems items = c :: cs ∧ isSpace c = false ∧ c ≠ ']' := by
  rcases items with _ | ⟨item, items⟩
  · exact absurd rfl hne
  obtain ⟨c, cs, hwrite, hc⟩ := (h item List.mem_cons_self).write_eq_cons
  by_cases hitems : items = []
  · subst hitems
    exact ⟨c, cs, by rw [writeItems, hwrite], hc⟩
  · exact ⟨c, _, by rw [writeItems_cons item hitems, hwrite]; rfl, hc⟩

/-- Items are read back up to the bracket behind them. -/
theorem readItems_writeItems {items : List Json} (hne : items ≠ [])
    (h : ∀ item ∈ items, item.ReadsBack) (fuel : Nat) (rest : List Char)
    (hfuel : 2 * (writeItems items).length + 1 < fuel) :
    readItems fuel (writeItems items ++ ']' :: rest) = some (items, rest) := by
  induction items generalizing fuel with
  | nil => exact absurd rfl hne
  | cons item items ih =>
    obtain ⟨fuel, rfl⟩ : ∃ n, fuel = n + 2 := ⟨fuel - 2, by omega⟩
    have hitem := (h item List.mem_cons_self).readValue_write fuel
    by_cases hitems : items = []
    · subst hitems
      rw [writeItems] at hfuel ⊢
      exact readItems_last (hitem _ (by omega) (endsNumber_cons (by simp) rest))
    · have hrest := fun j hj => h j (List.mem_cons_of_mem item hj)
      rw [writeItems_cons item hitems, List.length_append, List.length_cons] at hfuel
      rw [writeItems_cons item hitems, List.append_assoc, List.cons_append]
      refine readItems_more (hitem _ (by omega) (endsNumber_cons (by simp) _)) ?_
      obtain ⟨c, cs, hwrite, hc, -⟩ := writeItems_eq_cons hitems hrest
      rw [hwrite, List.cons_append, skipSpace_cons hc, ← List.cons_append, ← hwrite]
      exact ih hitems hrest (fuel + 1) (by omega)

theorem readMembers_last {fuel : Nat} {cs rest : List Char} {key : Option String} {value : Json}
    {cs' : List Char} (hkey : readText cs = some (key, ':' :: cs'))
    (h : readValue fuel (skipSpace cs') = some (value, '}' :: rest)) :
    readMembers (fuel + 1) ('"' :: cs) = some ([(key, value)], rest) := by
  rw [readMembers, hkey]
  simp [skipSpace_cons (c := ':') rfl, skipSpace_cons (c := '}') rfl, h]

theorem readMembers_more {fuel : Nat} {cs cs' more rest : List Char} {key : Option String}
    {value : Json} {members : List (Option String × Json)}
    (hkey : readText cs = some (key, ':' :: cs'))
    (h : readValue fuel (skipSpace cs') = some (value, ',' :: more))
    (hmore : readMembers fuel (skipSpace more) = some (members, rest)) :
    readMembers (fuel + 1) ('"' :: cs) = some ((key, value) :: members, rest) := by
  rw [readMembers, hkey]
  simp [skipSpace_cons (c := ':') rfl, skipSpace_cons (c := ',') rfl, h, hmore]

theorem writeMembers_cons (m : Option String × Json) {members : List (Option String × Json)}
    (hne : members ≠ []) : writeMembers (m :: members) =
      writeString (m.1.getD "") ++ ':' :: (m.2.write ++ ',' :: writeMembers members) := by
  rw [writeMembers]
  exact hne

theorem writeMembers_eq_cons {members : List (Option String × Json)} (hne : members ≠ []) :
    ∃ cs, writeMembers members = '"' :: cs := by
  rcases members with _ | ⟨m, members⟩
  · exact absurd rfl hne
  by_cases hmembers : members = []
  · subst hmembers
    exact ⟨_, rfl⟩
  · exact ⟨_, writeMembers_cons m hmembers⟩

/-- Members are read back up to the brace behind them. -/
theorem readMembers_writeMembers {members : List (Option String × Json)} (hne : members ≠ [])
    (hkeys : ∀ m ∈ members, m.1.isSome) (h : ∀ m ∈ members, m.2.ReadsBack) (fuel : Nat)
    (rest : List Char) (hfuel : 2 * (writeMembers members).length + 1 < fuel) :
    readMembers fuel (writeMembers members ++ '}' :: rest) = some (members, rest) := by
  induction members generalizing fuel with
  | nil => exact absurd rfl hne
  | cons m members ih =>
    obtain ⟨fuel, rfl⟩ : ∃ n, fuel = n + 2 := ⟨fuel - 2, by omega⟩
    obtain ⟨key, value⟩ := m
    obtain ⟨key, rfl⟩ := Option.isSome_iff_exists.mp (hkeys _ List.mem_cons_self)
    have hvalue : value.ReadsBack := h _ List.mem_cons_self
    by_cases hmembers : members = []
    · subst hmembers
      simp only [writeMembers, writeString, Option.getD_some, List.length_append, List.length_cons,
        List.cons_append, List.append_assoc, List.nil_append] at hfuel ⊢
      refine readMembers_last (readText_flatMap_escapeChar key _) ?_
      rw [hvalue.skipSpace_write]
      exact hvalue.readValue_write fuel _ (by omega) (endsNumber_cons (by simp) rest)
    · rw [writeMembers_cons _ hmembers] at hfuel ⊢
      simp only [writeString, Option.getD_some, List.length_append, List.length_cons,
        List.cons_append, List.append_assoc, List.nil_append] at hfuel ⊢
      have hmore : readMembers (fuel + 1) (skipSpace (writeMembers members ++ '}' :: rest)) =
          some (members, rest) := by
        obtain ⟨cs, hquote⟩ := writeMembers_eq_cons hmembers
        rw [hquote, List.cons_append, skipSpace_cons rfl, ← List.cons_append, ← hquote]
        exact ih hmembers (fun m hm => hkeys m (List.mem_cons_of_mem _ hm))
          (fun m hm => h m (List.mem_cons_of_mem _ hm)) (fuel + 1) (by omega)
      refine readMembers_more (readText_flatMap_escapeChar key _) ?_ hmore
      rw [hvalue.skipSpace_write]
      exact hvalue.readValue_write fuel _ (by omega) (endsNumber_cons (by simp) _)

theorem readValue_items {fuel : Nat} {c : Char} {cs rest : List Char} {items : List Json}
    (hc : isSpace c = false) (hbracket : c ≠ ']') (h : readItems fuel (c :: cs) = some (items, rest)) :
    readValue (fuel + 1) ('[' :: c :: cs) = some (.array items, rest) := by
  rw [readValue, skipSpace_cons hc]
  split
  · next heq => exact absurd (List.cons.inj heq).1 hbracket
  · rw [h, Option.map_some]

theorem readValue_members {fuel : Nat} {cs rest : List Char} {members : List (Option String × Json)}
    (h : readMembers fuel ('"' :: cs) = some (members, rest)) :
    readValue (fuel + 1) ('{' :: '"' :: cs) = some (.object members, rest) := by
  rw [readValue, skipSpace_cons rfl]
  simp [h]

/-- Whatever the library writes is read back, however deep values are nested. -/
theorem Plain.readsBack {j : Json} (h : j.Plain) : j.ReadsBack := by
  induction h with
  | null => exact ⟨⟨_, _, rfl, by decide, by decide⟩, fun _ _ _ _ => rfl⟩
  | bool b => cases b <;> exact ⟨⟨_, _, rfl, by decide, by decide⟩, fun _ _ _ _ => rfl⟩
  | ofNat n =>
    obtain ⟨d, ds, hd, hdigit⟩ := toDigits_eq_cons n
    constructor
    · have hbracket : d ≠ ']' := by
        rintro rfl
        exact absurd hdigit (by decide)
      exact ⟨d, ds, hd, isSpace_of_isDigit hdigit, hbracket⟩
    · intro fuel rest _ hrest
      rw [Json.ofNat, write, hd, List.cons_append, readValue_digit hdigit, ← List.cons_append, ← hd,
        readUnsigned_toDigits n hrest, Option.map_some]
  | ofString s =>
    constructor
    · exact ⟨_, _, rfl, by decide, by decide⟩
    · intro fuel rest _ _
      rw [Json.ofString, write, writeString, Option.getD_some, List.append_assoc, List.cons_append,
        List.singleton_append, readValue, readText_flatMap_escapeChar, Option.map_some]
  | @array items h ih =>
    have hwrite : (Json.array items).write = '[' :: (writeItems items ++ [']']) := by
      rw [write, List.cons_append]
    refine ⟨⟨_, _, hwrite, by decide, by decide⟩, ?_⟩
    intro fuel rest hfuel _
    by_cases hne : items = []
    · subst hne
      rfl
    · rw [hwrite, List.length_cons, List.length_append, List.length_singleton] at hfuel
      rw [hwrite, List.cons_append, List.append_assoc, List.singleton_append]
      obtain ⟨c, cs, hitems, hc, hbracket⟩ := writeItems_eq_cons hne ih
      have hread := readItems_writeItems hne ih fuel rest (by omega)
      rw [hitems, List.cons_append] at hread ⊢
      exact readValue_items hc hbracket hread
  | @object members hkeys h ih =>
    have hwrite : (Json.object members).write = '{' :: (writeMembers members ++ ['}']) := by
      rw [write, List.cons_append]
    refine ⟨⟨_, _, hwrite, by decide, by decide⟩, ?_⟩
    intro fuel rest hfuel _
    by_cases hne : members = []
    · subst hne
      rfl
    · rw [hwrite, List.length_cons, List.length_append, List.length_singleton] at hfuel
      rw [hwrite, List.cons_append, List.append_assoc, List.singleton_append]
      obtain ⟨cs, hmembers⟩ := writeMembers_eq_cons hne
      have hread := readMembers_writeMembers hne hkeys ih fuel rest (by omega)
      rw [hmembers, List.cons_append] at hread ⊢
      exact readValue_members hread

/-- A value that was written is read back from its text. -/
theorem Plain.parse_render {j : Json} (h : j.Plain) : parse j.render = some j := by
  have hskip := h.readsBack.skipSpace_write []
  have hread := h.readsBack.readValue_write (2 * j.write.length) [] le_rfl endsNumber_nil
  rw [List.append_nil] at hskip hread
  rw [parse, render, String.toList_ofList, hskip, hread]
  rfl

/-- Among members with different keys one alone has the key of a member. -/
theorem filter_key {members : List (String × Json)} (h : (members.map Prod.fst).Nodup)
    {m : String × Json} (hm : m ∈ members) :
    (members.map fun m => (some m.1, m.2)).filter (·.1 == some m.1) = [(some m.1, m.2)] := by
  induction members with
  | nil => cases hm
  | cons m' members ih =>
    obtain ⟨hkey, hrest⟩ := List.nodup_cons.mp h
    rcases List.mem_cons.mp hm with rfl | hm
    · -- the members behind it have other keys
      have hnone : (members.map fun m => (some m.1, m.2)).filter (·.1 == some m.1) = [] := by
        simp only [List.filter_eq_nil_iff, List.forall_mem_map, beq_iff_eq, Option.some.injEq]
        intro m' hm' heq
        exact hkey (heq ▸ List.mem_map_of_mem hm')
      simp [hnone]
    · have hne : m'.1 ≠ m.1 := by
        intro heq
        exact hkey (heq ▸ List.mem_map_of_mem hm)
      simpa [hne] using ih hrest hm

/-- A lookup that finds every member by its key gives the values in the order of the keys. -/
theorem mapM_keys {lookup : String → Option Json} {members : List (String × Json)}
    (h : ∀ m ∈ members, lookup m.1 = some m.2) :
    (members.map Prod.fst).mapM lookup = some (members.map Prod.snd) := by
  induction members with
  | nil => rfl
  | cons m rest ih =>
    rw [List.map_cons, List.mapM_cons, h m List.mem_cons_self,
      ih fun m' hm' => h m' (List.mem_cons_of_mem m hm')]
    rfl

/-- A record is read by the names of the fields with which it was written. -/
theorem record?_ofMembers {members : List (String × Json)} (h : (members.map Prod.fst).Nodup) :
    (ofMembers members).record? (members.map Prod.fst) = some (members.map Prod.snd) := by
  rw [ofMembers, record?, if_pos (by simp)]
  exact mapM_keys fun m hm => by rw [filter_key h hm]

theorem string?_ofString (s : String) : (ofString s).string? = some s := rfl

theorem decimalValue_toDigits (n : Nat) : decimalValue (Nat.toDigits 10 n) = n := by
  rw [decimalValue, ← Nat.ofDigitChars_eq_foldl, Nat.ofDigitChars_ten_toDigits]

theorem uint32?_ofNat (n : UInt32) : (ofNat n.toNat).uint32? = some n := by
  have hdigits : isDigits (Nat.toDigits 10 n.toNat) = true := by
    simp only [isDigits, Bool.and_eq_true, Bool.not_eq_true', List.isEmpty_eq_false_iff,
      List.all_eq_true]
    exact ⟨Nat.toDigits_ne_nil, isDigit_of_mem_toDigits⟩
  rw [ofNat, uint32?]
  simp only [decimalValue_toDigits, hdigits, n.toNat_lt_size]
  simp

end Exemplar.Text.Json

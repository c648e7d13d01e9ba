import Exemplar.Config.Json
import Exemplar.Proofs.Config.Precedence
import Exemplar.Proofs.Registry.History

namespace Exemplar

namespace Config

/-- A way to make settings. A change is made to a copy of settings made before, which are numbered. -/
inductive Making where
  | default
  | load (s : Surroundings) (args : List String)
  | loadWithoutArguments (s : Surroundings)
  | withLogFilter (i : Nat) (filter : String)
  | withLogFormat (i : Nat) (format : LogFormat)
  | withNameSeparator (i : Nat) (separator : String)
  | decode (text : String)

/-- The bridges that can be had with the settings put something between descriptions. -/
def BridgesSeparate (c : Config) : Prop :=
  ∀ {β σ : Type} (spec : Spec β σ) (r : Registry β) (t : Thread σ) (b : Bridge β),
    (r.bridgeFor spec c t).1 = .ok b → b.separator ≠ ""

theorem separator_of_bridgeFor {β σ : Type} {spec : Spec β σ} {c : Config} {r : Registry β}
    {t : Thread σ} {b : Bridge β} (h : (r.bridgeFor spec c t).1 = .ok b) :
    b.separator = c.nameSeparator := by
  rw [Registry.bridgeFor] at h
  split at h
  next => cases h
  next =>
    split at h
    next => cases h
    next =>
      cases h
      rfl

/-- There is a spec of whose tree a bridge can be had. -/
theorem bridgesSeparate_iff {c : Config} : c.BridgesSeparate ↔ c.nameSeparator ≠ "" := by
  constructor
  · intro h
    let spec : Spec Unit Unit := (Catalogue.ofProgram "s" .done).spec 0
    obtain ⟨b, hb⟩ : ∃ b, (Registry.empty.bridgeFor spec c (.fresh ())).1 = .ok b := ⟨_, rfl⟩
    rw [← separator_of_bridgeFor hb]
    exact h spec .empty (.fresh ()) b hb
  · intro h β σ spec r t b hb
    rwa [separator_of_bridgeFor hb]

theorem nameSeparator_of_ofArguments {s : Surroundings} {args : List String} {c : Config}
    (h : ofArguments s args = .ok c) : c.nameSeparator ≠ "" := by
  obtain ⟨-, -, -, -, -, hne⟩ := ofArguments_eq_ok_iff.mp h
  exact hne

namespace Making

/-- The settings that are made, if any are, given those made before. -/
def perform? (made : List Config) : Making → Option Config
  | default => some .default
  | load s args => (ofArguments s args).toOption
  | loadWithoutArguments s => (ofSurroundings s).toOption
  | withLogFilter i filter => made[i]?.map (·.withLogFilter filter)
  | withLogFormat i format => made[i]?.map (·.withLogFormat format)
  | withNameSeparator i separator => made[i]?.bind fun c => (c.withNameSeparator separator).toOption
  | decode text => decode? text

/-- All settings that are made in turn, given those made before. -/
def performAll (made : List Config) : List Making → List Config
  | [] => made
  | m :: makings => performAll (made ++ (m.perform? made).toList) makings

/-- If settings are read, they are read with a separator. -/
def ReadsSeparator (m : Making) : Prop :=
  ∀ text c, m = decode text → decode? text = some c → c.nameSeparator ≠ ""

theorem toOption_eq_some {ε α : Type} {x : Except ε α} {a : α} (h : x.toOption = some a) : x = .ok a := by
  cases x with
  | error e => cases h
  | ok a' => exact congrArg Except.ok (Option.some.inj h)

/-- Settings with a separator are made from settings with a separator. -/
theorem separator_perform? {made : List Config} (hmade : ∀ c ∈ made, c.nameSeparator ≠ "")
    {m : Making} (hm : m.ReadsSeparator) {c : Config} (h : m.perform? made = some c) :
    c.nameSeparator ≠ "" := by
  cases m with
  | default =>
    cases h
    decide
  | load s args => exact nameSeparator_of_ofArguments (toOption_eq_some h)
  | loadWithoutArguments s => exact nameSeparator_of_ofArguments (toOption_eq_some h)
  | withLogFilter i filter =>
    obtain ⟨c', hc', rfl⟩ := Option.map_eq_some_iff.mp h
    exact hmade c' (List.mem_of_getElem? hc')
  | withLogFormat i format =>
    obtain ⟨c', hc', rfl⟩ := Option.map_eq_some_iff.mp h
    exact hmade c' (List.mem_of_getElem? hc')
  | withNameSeparator i separator =>
    obtain ⟨c', -, hc⟩ := Option.bind_eq_some_iff.mp h
    obtain ⟨rfl, hne⟩ := checked_eq_ok_iff.mp (toOption_eq_some hc)
    exact hne
  | decode text => exact hm text c rfl h

theorem separators_performAll {makings : List Making} {made : List Config}
    (hmade : ∀ c ∈ made, c.nameSeparator ≠ "") (h : ∀ m ∈ makings, m.ReadsSeparator) :
    ∀ c ∈ performAll made makings, c.nameSeparator ≠ "" := by
  induction makings generalizing made with
  | nil => exact hmade
  | cons m makings ih =>
    obtain ⟨hm, hmakings⟩ := List.forall_mem_cons.mp h
    refine ih (List.forall_mem_append.mpr ⟨hmade, ?_⟩) hmakings
    intro c hc
    exact separator_perform? hmade hm (Option.mem_toList.mp hc)

theorem mem_performAll {makings : List Making} {made : List Config} {c : Config} (h : c ∈ made) :
    c ∈ performAll made makings := by
  induction makings generalizing made with
  | nil => exact h
  | cons m makings ih => exact ih (List.mem_append_left _ h)

theorem decoded_mem_performAll {makings : List Making} {made : List Config} {text : String}
    {c : Config} (hm : decode text ∈ makings) (h : decode? text = some c) :
    c ∈ performAll made makings := by
  induction makings generalizing made with
  | nil => cases hm
  | cons m makings ih =>
    rcases List.mem_cons.mp hm with rfl | hm
    · have hmade : c ∈ made ++ ((decode text).perform? made).toList :=
        List.mem_append_right _ (Option.mem_toList.mpr h)
      rw [performAll]
      exact mem_performAll hmade
    · exact ih hm

/-- All settings that are ever made have a separator, and all bridges that can be had with them, exactly
if all settings that are read from a text are read with one. -/
theorem separators_performAll_iff (makings : List Making) :
    ((∀ c ∈ performAll [] makings, c.nameSeparator ≠ "") ↔ ∀ m ∈ makings, m.ReadsSeparator) ∧
      ((∀ c ∈ performAll [] makings, c.BridgesSeparate) ↔ ∀ m ∈ makings, m.ReadsSeparator) := by
  have hiff : (∀ c ∈ performAll [] makings, c.nameSeparator ≠ "") ↔
      ∀ m ∈ makings, m.ReadsSeparator := by
    constructor
    · rintro h _ hm text c rfl hc
      exact h c (decoded_mem_performAll hm hc)
    · exact separators_performAll (by simp)
  refine ⟨hiff, ?_⟩
  simp only [bridgesSeparate_iff]
  exact hiff

/-- Settings are read without a separator, and with them a bridge can be had that puts nothing between
descriptions. -/
theorem not_separators_performAll_decode :
    let text := "\x7b\"log_filter\":\"warn\",\"log_format\":\"compact\",\"name_separator\":\"\"\x7d"
    let made := performAll [] [.default, .decode text]
    made = [.default, ⟨"warn", .compact, ""⟩] ∧ ¬ (∀ c ∈ made, c.nameSeparator ≠ "") ∧
      ¬ ∀ c ∈ made, c.BridgesSeparate := by
  intro text made
  have hread : decode? text = some ⟨"warn", .compact, ""⟩ := by decide +kernel
  have hnot : ¬ ∀ m ∈ [Making.default, .decode text], m.ReadsSeparator := by
    intro h
    exact h (.decode text) (by simp) text _ rfl hread rfl
  obtain ⟨hsettings, hbridges⟩ := separators_performAll_iff [.default, .decode text]
  refine ⟨?_, mt hsettings.mp hnot, mt hbridges.mp hnot⟩
  simp only [made, performAll, perform?, hread]
  rfl

end Making

end Config

end Exemplar

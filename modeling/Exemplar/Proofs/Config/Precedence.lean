import Exemplar.Config.Load
import Mathlib.Data.Option.Basic

namespace Exemplar

inductive Setting where
  | logFilter
  | logFormat
  | nameSeparator
  deriving DecidableEq, Repr

theorem LogFormat.ofName?_eq_some_iff {s : String} {f : LogFormat} : ofName? s = some f ↔ s = f.name := by
  constructor
  · intro h
    rw [ofName?] at h
    split at h
    next hs =>
      cases h
      exact hs
    next =>
      split at h
      next hs =>
        cases h
        exact hs
      next => cases h
  · rintro rfl
    cases f <;> rfl

/-- The text by which a source sets a setting to what it is. -/
def Config.text (c : Config) : Setting → String
  | .logFilter => c.logFilter
  | .logFormat => c.logFormat.name
  | .nameSeparator => c.nameSeparator

theorem Config.eq_of_text {c c' : Config} (h : ∀ x, c.text x = c'.text x) : c = c' := by
  obtain ⟨filter, format, separator⟩ := c
  obtain ⟨filter', format', separator'⟩ := c'
  obtain rfl : filter = filter' := h .logFilter
  obtain rfl : separator = separator' := h .nameSeparator
  have hname : format.name = format'.name := h .logFormat
  have hformat := LogFormat.ofName?_eq_some_iff.mpr hname
  rw [LogFormat.ofName?_eq_some_iff.mpr rfl] at hformat
  rw [Option.some.inj hformat]

theorem Config.checked_eq_ok_iff {c c' : Config} :
    c.checked = .ok c' ↔ c = c' ∧ c.nameSeparator ≠ "" := by
  rw [checked]
  split
  next hempty => simp [hempty]
  next hne => simp [hne]

namespace Layer

/-- What a source says about a setting. -/
def get (l : Layer) : Setting → Option SourceValue
  | .logFilter => l.logFilter
  | .logFormat => l.logFormat
  | .nameSeparator => l.nameSeparator

theorem get_above (upper lower : Layer) (x : Setting) :
    (upper.above lower).get x = (upper.get x).or (lower.get x) := by
  cases x <;> exact Option.orElse_eq_or

/-- Layers that say of each setting what it is give these settings, if they pass the check. -/
theorem toConfig_of_get {l : Layer} {c : Config} (h : ∀ x, l.get x = some (.text (c.text x))) :
    l.toConfig = c.checked := by
  have hfilter : l.logFilter = some (.text c.logFilter) := h .logFilter
  have hformat : l.logFormat = some (.text c.logFormat.name) := h .logFormat
  have hseparator : l.nameSeparator = some (.text c.nameSeparator) := h .nameSeparator
  simp only [toConfig, hfilter, hformat, hseparator, LogFormat.ofName?_eq_some_iff.mpr rfl]

/-- Layers that give anything but an error of loading say of each setting what it is. -/
theorem get_of_toConfig {l : Layer} (h : l.toConfig ≠ .error .load) :
    ∃ c : Config, ∀ x, l.get x = some (.text (c.text x)) := by
  rw [toConfig] at h
  split at h
  next filter format separator hfilter hformat hseparator =>
    split at h
    next f hf =>
      rw [LogFormat.ofName?_eq_some_iff] at hf
      subst hf
      refine ⟨⟨filter, f, separator⟩, fun x => ?_⟩
      cases x with
      | logFilter => exact hfilter
      | logFormat => exact hformat
      | nameSeparator => exact hseparator
    next => exact absurd rfl h
  next => exact absurd rfl h

/-- Layers give settings if each of them is text of its form, and the separator is not empty. -/
theorem toConfig_eq_ok_iff {l : Layer} {c : Config} :
    l.toConfig = .ok c ↔ (∀ x, l.get x = some (.text (c.text x))) ∧ c.nameSeparator ≠ "" := by
  constructor
  · intro h
    obtain ⟨c', hget⟩ := get_of_toConfig (l := l) (by rw [h]; nofun)
    rw [toConfig_of_get hget] at h
    obtain ⟨rfl, hne⟩ := Config.checked_eq_ok_iff.mp h
    exact ⟨hget, hne⟩
  · rintro ⟨hget, hne⟩
    rw [toConfig_of_get hget]
    exact Config.checked_eq_ok_iff.mpr ⟨rfl, hne⟩

theorem get_nameSeparator_of_emptySeparator {l : Layer} (h : l.toConfig = .error .emptySeparator) :
    l.get .nameSeparator = some (.text "") := by
  obtain ⟨c, hget⟩ := get_of_toConfig (l := l) (by rw [h]; nofun)
  rw [toConfig_of_get hget, Config.checked] at h
  split at h
  next hempty => exact (hget .nameSeparator).trans (congrArg (some ∘ SourceValue.text) hempty)
  next => cases h

/-- Two sources say the same about every setting that the source above them leaves open. -/
def AgreeBelow (upper l l' : Layer) : Prop := ∀ x, upper.get x = none → l.get x = l'.get x

end Layer

namespace Config

/-- Each setting is what the first source says that says anything about it. -/
def DecidedBy (c : Config) (sources : List Layer) : Prop :=
  ∀ x, sources.findSome? (Layer.get · x) = some (.text (c.text x))

/-- What the sources below the first say counts for the settings that the first leaves open. -/
theorem DecidedBy.congr {c : Config} {upper middle lower middle' lower' lowest : Layer}
    (h : c.DecidedBy [upper, middle, lower, lowest]) (hmiddle : upper.AgreeBelow middle middle')
    (hlower : upper.AgreeBelow lower lower') : c.DecidedBy [upper, middle', lower', lowest] := by
  intro x
  rw [← h x]
  cases hx : upper.get x with
  | some v => simp only [List.findSome?_cons, hx]
  | none => simp only [List.findSome?_cons, hx, hmiddle x hx, hlower x hx]

/-- A load succeeds with the settings that its sources decide, if they can be read. -/
theorem ofArguments_eq_ok_iff {s : Surroundings} {args : List String} {c : Config} :
    ofArguments s args = .ok c ↔ ∃ a file, Arguments.read? args = some a ∧
      s.fileLayer a = .ok file ∧ c.DecidedBy [a.layer, s.environment.layer, file, .defaults] ∧
      c.nameSeparator ≠ "" := by
  have hsources (a : Arguments) (file : Layer) :
      (a.layer.above (s.environment.layer.above (file.above .defaults))).toConfig = .ok c ↔
        c.DecidedBy [a.layer, s.environment.layer, file, .defaults] ∧ c.nameSeparator ≠ "" := by
    rw [Layer.toConfig_eq_ok_iff, DecidedBy]
    refine and_congr_left fun _ => forall_congr' fun x => ?_
    simp only [Layer.get_above, List.findSome?_cons, List.findSome?_nil]
    cases a.layer.get x <;> cases s.environment.layer.get x <;> cases file.get x <;>
      cases Layer.defaults.get x <;> rfl
  rw [ofArguments]
  cases hread : Arguments.read? args with
  | none => simp
  | some a =>
    cases hfile : s.fileLayer a with
    | error e => simp [hfile]
    | ok file => simp [hfile, hsources]

end Config

namespace FileTree

theorem find?_nil (directory : List String) (path : String) :
    (⟨[]⟩ : FileTree).find? directory path = none := by
  rw [find?]
  split
  next => rfl
  next =>
    cases (⟨[]⟩ : FileTree).follow directory (components path) with
    | none => rfl
    | some file => rfl

/-- Where there are no files, files say nothing. -/
theorem discover_nil (configured : Option String) :
    (⟨[]⟩ : FileTree).discover configured = .ok .empty := by
  have hfound : (places configured).filterMap
      (fun place => (⟨[]⟩ : FileTree).layerAt place.1 place.2) = [] := by
    apply List.filterMap_eq_nil_iff.mpr
    intro place _
    rw [layerAt, find?_nil, Option.map_none]
  rw [discover, hfound]
  rfl

end FileTree

theorem Surroundings.fileLayer_nil (environment : Environment) {a : Arguments}
    (h : a.configPath = none) : (⟨environment, ⟨[]⟩⟩ : Surroundings).fileLayer a = .ok .empty := by
  rw [fileLayer, h, FileTree.layer]
  exact FileTree.discover_nil _

namespace Arguments

/-- What the flags of a command line say. -/
def flags (a : Arguments) : Layer :=
  .ofTexts a.logFilter (a.logFormat.map LogFormat.name) a.nameSeparator

theorem layer_eq_flags {a : Arguments} (h : a.restatesDefaults = false) : a.layer = a.flags := by
  rw [layer, h]
  rfl

theorem eq_of_restatesDefaults {a : Arguments} (h : a.restatesDefaults = true) :
    a = ⟨some Config.defaultLogFilter, some Config.defaultLogFormat,
      some Config.defaultNameSeparator, .none⟩ := by
  simpa [restatesDefaults] using h

theorem layer_eq_empty {a : Arguments} (h : a.restatesDefaults = true) : a.layer = .empty := by
  rw [layer, h]
  rfl

theorem get_flags_of_restatesDefaults {a : Arguments} (h : a.restatesDefaults = true) (x : Setting) :
    a.flags.get x = some (.text (Config.default.text x)) := by
  rw [eq_of_restatesDefaults h]
  cases x <;> rfl

theorem decidedBy_flags_iff {a : Arguments} (h : a.restatesDefaults = true) {c : Config}
    (sources : List Layer) : c.DecidedBy (a.flags :: sources) ↔ c = .default := by
  constructor
  · intro hd
    apply Config.eq_of_text
    intro x
    have hx := hd x
    rw [List.findSome?_cons, get_flags_of_restatesDefaults h] at hx
    exact (SourceValue.text.inj (Option.some.inj hx)).symm
  · rintro rfl x
    rw [List.findSome?_cons, get_flags_of_restatesDefaults h]

end Arguments

namespace Config

/-- Settings that flags do not leave open stay as they are whatever the sources below say, unless the
flags restate the defaults. -/
theorem ofArguments_congr {s s' : Surroundings} {args : List String} {c : Config} {a : Arguments}
    {file file' : Layer} (hread : Arguments.read? args = some a)
    (hrestates : a.restatesDefaults = false) (hfile : s.fileLayer a = .ok file)
    (hfile' : s'.fileLayer a = .ok file')
    (hvariables : a.flags.AgreeBelow s.environment.layer s'.environment.layer)
    (hfiles : a.flags.AgreeBelow file file') (h : ofArguments s args = .ok c) :
    ofArguments s' args = .ok c := by
  obtain ⟨b, f, hb, hf, hd, hne⟩ := ofArguments_eq_ok_iff.mp h
  obtain rfl := Option.some.inj (hread.symm.trans hb)
  obtain rfl := Except.ok.inj (hfile.symm.trans hf)
  rw [Arguments.layer_eq_flags hrestates] at hd
  refine ofArguments_eq_ok_iff.mpr ⟨a, file', hread, hfile', ?_, hne⟩
  rw [Arguments.layer_eq_flags hrestates]
  exact hd.congr hvariables hfiles

/-- Surroundings in which no load succeeds that does not have its log filter from a flag. -/
def unfiltered : Surroundings := ⟨[(logFilterVariable, ",")], ⟨[]⟩⟩

theorem fileLayer_unfiltered {a : Arguments} (h : a.restatesDefaults = true) :
    unfiltered.fileLayer a = .ok .empty := by
  apply Surroundings.fileLayer_nil
  rw [Arguments.eq_of_restatesDefaults h]

theorem ofArguments_unfiltered {args : List String} {a : Arguments}
    (hread : Arguments.read? args = some a) (hrestates : a.restatesDefaults = true) :
    ofArguments unfiltered args = .error .load := by
  have hvariables : unfiltered.environment.layer = ⟨some .other, none, none⟩ := rfl
  simp only [ofArguments, hread, fileLayer_unfiltered hrestates, Arguments.layer_eq_empty hrestates,
    hvariables]
  rfl

/-- The flags of a load that succeeds decide the settings they are about, over variables over files over
what holds anyway, unless they restate the latter: then this is so only if nothing else is said. What
variables and files say about these settings is of no account, with the same exception. -/
theorem decided_by_flags_iff {s : Surroundings} {args : List String} {c : Config}
    (h : ofArguments s args = .ok c) :
    ∃ a file, Arguments.read? args = some a ∧ s.fileLayer a = .ok file ∧
      (c.DecidedBy [a.flags, s.environment.layer, file, .defaults] ↔
        (a.restatesDefaults = true → c = .default)) ∧
      ((∀ s' file', s'.fileLayer a = .ok file' →
          a.flags.AgreeBelow s.environment.layer s'.environment.layer →
          a.flags.AgreeBelow file file' → ofArguments s' args = .ok c) ↔
        a.restatesDefaults = false) := by
  obtain ⟨a, file, hread, hfile, hd, -⟩ := ofArguments_eq_ok_iff.mp h
  refine ⟨a, file, hread, hfile, ?_, ?_⟩
  · cases hrestates : a.restatesDefaults with
    | false =>
      rw [Arguments.layer_eq_flags hrestates] at hd
      simp [hd]
    | true =>
      rw [Arguments.decidedBy_flags_iff hrestates]
      simp
  · constructor
    · intro hlaw
      by_contra hrestates
      rw [Bool.not_eq_false] at hrestates
      have hbelow (l l' : Layer) : a.flags.AgreeBelow l l' := by
        intro x hx
        rw [Arguments.get_flags_of_restatesDefaults hrestates] at hx
        cases hx
      have hload := hlaw unfiltered .empty (fileLayer_unfiltered hrestates) (hbelow _ _) (hbelow _ _)
      rw [ofArguments_unfiltered hread hrestates] at hload
      cases hload
    · intro hrestates s' file' hfile' hvariables hfiles
      exact ofArguments_congr hread hrestates hfile hfile' hvariables hfiles h

/-- Flags that restate the defaults lose to a variable. -/
theorem not_decided_by_restating_flags :
    let s : Surroundings := ⟨[(logFilterVariable, "debug")], ⟨[]⟩⟩
    let args := ["sprout", "--log-filter=warn", "--log-format=compact", "--name-separator= "]
    ofArguments s args = .ok ⟨"debug", .compact, " "⟩ ∧
      ∃ a file, Arguments.read? args = some a ∧ s.fileLayer a = .ok file ∧
        a.flags.logFilter = some (.text "warn") ∧
        ¬ (⟨"debug", .compact, " "⟩ : Config).DecidedBy
          [a.flags, s.environment.layer, file, .defaults] := by
  intro s args
  let a : Arguments := ⟨some "warn", some .compact, some " ", none⟩
  have hread : Arguments.read? args = some a := by decide +kernel
  have hfile : s.fileLayer a = .ok .empty := Surroundings.fileLayer_nil _ rfl
  have hvariables : s.environment.layer = ⟨some (.text "debug"), none, none⟩ := rfl
  have h : ofArguments s args = .ok ⟨"debug", .compact, " "⟩ := by
    simp only [ofArguments, hread, hfile, hvariables]
    rfl
  obtain ⟨a', file, hread', hfile', hiff, -⟩ := decided_by_flags_iff h
  obtain rfl : a = a' := Option.some.inj (hread.symm.trans hread')
  refine ⟨h, a, file, hread, hfile', rfl, ?_⟩
  rw [hiff]
  decide

end Config

end Exemplar

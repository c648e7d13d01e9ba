import Exemplar.Proofs.Config.Guess
import Exemplar.Proofs.Config.Precedence

namespace Exemplar

namespace Setting

def variableName : Setting → String
  | logFilter => Config.logFilterVariable
  | logFormat => Config.logFormatVariable
  | nameSeparator => Config.nameSeparatorVariable

def flagName : Setting → String
  | logFilter => "--log-filter"
  | logFormat => "--log-format"
  | nameSeparator => "--name-separator"

def flag : Setting → Flag
  | logFilter => .logFilter
  | logFormat => .logFormat
  | nameSeparator => .nameSeparator

/-- What is loaded if nothing is set but the variable of the setting. -/
def byVariable (x : Setting) (v : String) : Except ConfigError Config :=
  Config.ofArguments ⟨[(x.variableName, v)], ⟨[]⟩⟩ ["sprout"]

/-- What is loaded if nothing is set but the flag of the setting. -/
def byFlag (x : Setting) (v : String) : Except ConfigError Config :=
  Config.ofArguments ⟨[], ⟨[]⟩⟩ ["sprout", x.flagName ++ "=" ++ v]

/-- The layer that speaks of this setting and of no other. -/
def only (x : Setting) (value : SourceValue) : Layer :=
  match x with
  | logFilter => ⟨some value, none, none⟩
  | logFormat => ⟨none, some value, none⟩
  | nameSeparator => ⟨none, none, some value⟩

/-- What is loaded if one source speaks, and of this setting only. -/
def load (x : Setting) (value : SourceValue) : Except ConfigError Config :=
  ((x.only value).above .defaults).toConfig

/-- The text that the flag of the setting hands on for a value that it takes. -/
def handedOn? (x : Setting) (v : String) : Option String :=
  match x with
  | logFormat => (LogFormat.ofNameAnyCase? v).map LogFormat.name
  | _ => some v

/-- The name that a setting has in all sources but the command line. -/
def key : Setting → String
  | logFilter => "log_filter"
  | logFormat => "log_format"
  | nameSeparator => "name_separator"

theorem keyPath?_variableName (x : Setting) : Environment.keyPath? x.variableName = some [x.key] := by
  cases x <;> rfl

theorem put_key (x : Setting) (value : SourceValue) : Layer.empty.put x.key value = x.only value := by
  cases x <;> rfl

theorem layer_variableName (x : Setting) (v : String) :
    Environment.layer [(x.variableName, v)] = x.only (Guess.value v) := by
  simp only [Environment.layer, List.foldl_cons, List.foldl_nil, keyPath?_variableName, put_key]

theorem byVariable_eq (x : Setting) (v : String) : x.byVariable v = x.load (Guess.value v) := by
  have hread : Arguments.read? ["sprout"] = some .none := rfl
  have hfile := Surroundings.fileLayer_nil [(x.variableName, v)] (a := .none) rfl
  simp only [byVariable, Config.ofArguments, hread, hfile, layer_variableName]
  cases x <;> rfl

theorem ofArgument?_flagName (x : Setting) (v : String) :
    Flag.ofArgument? (x.flagName ++ "=" ++ v).toList = some (x.flag, some v) := by
  rw [String.toList_append, String.toList_append]
  have hv : some v = some (String.ofList v.toList) := by rw [String.ofList_toList]
  rw [hv]
  cases x <;> rfl

theorem read?_flagName (x : Setting) (v : String) :
    Arguments.read? ["sprout", x.flagName ++ "=" ++ v] = Arguments.none.take? x.flag v := by
  have hne : x.flagName ++ "=" ++ v ≠ "--" := by
    intro heq
    have hflag := x.ofArgument?_flagName v
    rw [heq] at hflag
    cases hflag
  change Arguments.none.readAfter [x.flagName ++ "=" ++ v] = _
  rw [Arguments.readAfter.eq_def]
  simp only [ofArgument?_flagName, hne, decide_false, Bool.false_and, Bool.false_eq_true, if_false,
    Arguments.readAfter]
  exact Option.bind_fun_some _

/-- A flag that takes its value says what the value hands on, and one flag restates nothing. -/
theorem take?_of_handedOn? {x : Setting} {v s : String} (h : x.handedOn? v = some s) :
    ∃ a, Arguments.none.take? x.flag v = some a ∧ a.configPath = none ∧
      a.layer = x.only (.text s) := by
  cases x with
  | logFilter =>
    cases h
    refine ⟨⟨some v, none, none, none⟩, rfl, rfl, ?_⟩
    exact Arguments.layer_eq_flags (by simp [Arguments.restatesDefaults])
  | logFormat =>
    obtain ⟨f, hf, rfl⟩ := Option.map_eq_some_iff.mp h
    refine ⟨⟨none, some f, none, none⟩, ?_, rfl, ?_⟩
    · simp only [flag, Arguments.take?, hf]
      rfl
    · exact Arguments.layer_eq_flags (by simp [Arguments.restatesDefaults])
  | nameSeparator =>
    cases h
    refine ⟨⟨none, none, some v, none⟩, rfl, rfl, ?_⟩
    exact Arguments.layer_eq_flags (by simp [Arguments.restatesDefaults])

theorem take?_of_handedOn?_eq_none {x : Setting} {v : String} (h : x.handedOn? v = none) :
    Arguments.none.take? x.flag v = none := by
  cases x with
  | logFilter => cases h
  | logFormat =>
    simp only [flag, Arguments.take?, Option.map_eq_none_iff.mp h]
    rfl
  | nameSeparator => cases h

theorem byFlag_of_handedOn? {x : Setting} {v s : String} (h : x.handedOn? v = some s) :
    x.byFlag v = x.load (.text s) := by
  obtain ⟨a, htake, hpath, hlayer⟩ := take?_of_handedOn? h
  have hempty (l : Layer) : Layer.empty.above l = l := rfl
  have hvariables : Environment.layer [] = .empty := rfl
  simp only [byFlag, Config.ofArguments, read?_flagName, htake, Surroundings.fileLayer_nil [] hpath,
    hlayer, hvariables, hempty, load]

theorem byFlag_of_handedOn?_eq_none {x : Setting} {v : String} (h : x.handedOn? v = none) :
    x.byFlag v = .error .load := by
  simp only [byFlag, Config.ofArguments, read?_flagName, take?_of_handedOn?_eq_none h]

theorem get_only (x : Setting) (value : SourceValue) : (x.only value).get x = some value := by
  cases x <;> rfl

theorem eq_text_of_load_ok {x : Setting} {value : SourceValue} {c : Config}
    (h : x.load value = .ok c) : value = .text (c.text x) := by
  have hx := (Layer.toConfig_eq_ok_iff.mp h).1 x
  rw [Layer.get_above, get_only] at hx
  exact Option.some.inj hx

theorem eq_empty_of_load {x : Setting} {value : SourceValue}
    (h : x.load value = .error .emptySeparator) : value = .text "" := by
  have hseparator := Layer.get_nameSeparator_of_emptySeparator h
  rw [Layer.get_above] at hseparator
  have hdefault : Layer.defaults.get .nameSeparator ≠ some (.text "") := by decide
  cases x with
  | logFilter => exact absurd hseparator hdefault
  | logFormat => exact absurd hseparator hdefault
  | nameSeparator => exact Option.some.inj hseparator

/-- Whatever loads what a text loads is that text. -/
theorem eq_text_of_load {x : Setting} {value : SourceValue} {s : String}
    (h : x.load (.text s) ≠ .error .load) (heq : x.load value = x.load (.text s)) :
    value = .text s := by
  cases hs : x.load (.text s) with
  | ok c => rw [eq_text_of_load_ok (heq.trans hs), eq_text_of_load_ok hs]
  | error e =>
    cases e with
    | load => exact absurd hs h
    | emptySeparator => rw [eq_empty_of_load (heq.trans hs), eq_empty_of_load hs]

/-- The variable of a setting stands for what its flag hands on exactly if no rule applies to the text
and it is handed on as it stands. -/
theorem value_eq_handedOn_iff {x : Setting} {v s : String} (h : x.handedOn? v = some s) :
    Guess.value v = .text s ↔ Guess.Literal v.toList ∧ (x = .logFormat → ∃ f : LogFormat, v = f.name) := by
  cases x with
  | logFilter =>
    cases h
    simp [Guess.value_eq_text_iff]
  | logFormat =>
    obtain ⟨f, hf, rfl⟩ := Option.map_eq_some_iff.mp h
    have hlength : v.toList.length = f.name.toList.length := by
      have hlower : Text.asciiLower v = f.name := LogFormat.ofName?_eq_some_iff.mp hf
      rw [← hlower, Text.asciiLower, String.toList_ofList, List.length_map]
    constructor
    · intro hvalue
      rcases Guess.eq_or_shorter_of_value hvalue with rfl | hlt
      · exact ⟨Guess.literal_of_value hvalue, fun _ => ⟨f, rfl⟩⟩
      · exact absurd hlength hlt.ne'
    · rintro ⟨hliteral, hname⟩
      obtain ⟨g, rfl⟩ := hname rfl
      have hg : LogFormat.ofNameAnyCase? g.name = some g := by cases g <;> rfl
      obtain rfl := Option.some.inj (hg.symm.trans hf)
      exact Guess.value_eq_text_iff.mpr hliteral
  | nameSeparator =>
    cases h
    simp [Guess.value_eq_text_iff]

/-- On a text that its flag takes, a setting is loaded alike from its variable and from its flag exactly
if no rule applies to the text, and, for a format, the text is its name in lower case. -/
theorem byVariable_eq_byFlag_iff (x : Setting) (v : String) (h : x.byFlag v ≠ .error .load) :
    x.byVariable v = x.byFlag v ↔
      Guess.Literal v.toList ∧ (x = .logFormat → ∃ f : LogFormat, v = f.name) := by
  cases hs : x.handedOn? v with
  | none => exact absurd (byFlag_of_handedOn?_eq_none hs) h
  | some s =>
    rw [byFlag_of_handedOn? hs] at h ⊢
    rw [← value_eq_handedOn_iff hs, byVariable_eq]
    refine ⟨eq_text_of_load h, ?_⟩
    intro hvalue
    rw [hvalue]

/-- Several directives are a list to a variable, a separator loses the blanks around it, and a format in
upper case is none. -/
theorem not_byVariable_eq_byFlag :
    logFilter.byFlag "warn,sprout=debug" = .ok ⟨"warn,sprout=debug", .compact, " "⟩ ∧
      logFilter.byVariable "warn,sprout=debug" ≠ logFilter.byFlag "warn,sprout=debug" ∧
    nameSeparator.byFlag " / " = .ok ⟨"warn", .compact, " / "⟩ ∧
      nameSeparator.byVariable " / " ≠ nameSeparator.byFlag " / " ∧
    logFormat.byFlag "JSON" = .ok ⟨"warn", .json, " "⟩ ∧
      logFormat.byVariable "JSON" ≠ logFormat.byFlag "JSON" := by
  have hfilter : logFilter.byFlag "warn,sprout=debug" = .ok ⟨"warn,sprout=debug", .compact, " "⟩ :=
    byFlag_of_handedOn? rfl
  have hseparator : nameSeparator.byFlag " / " = .ok ⟨"warn", .compact, " / "⟩ := by
    rw [byFlag_of_handedOn? (s := " / ") rfl]
    rfl
  have hformat : logFormat.byFlag "JSON" = .ok ⟨"warn", .json, " "⟩ :=
    byFlag_of_handedOn? (s := "json") rfl
  refine ⟨hfilter, ?_, hseparator, ?_, hformat, ?_⟩
  · rw [Ne, byVariable_eq_byFlag_iff _ _ (by rw [hfilter]; nofun)]
    rintro ⟨hliteral, -⟩
    exact absurd hliteral.notBareList (by decide)
  · rw [Ne, byVariable_eq_byFlag_iff _ _ (by rw [hseparator]; nofun)]
    rintro ⟨hliteral, -⟩
    exact absurd hliteral.trimmed (by decide)
  · rw [Ne, byVariable_eq_byFlag_iff _ _ (by rw [hformat]; nofun)]
    rintro ⟨-, hname⟩
    obtain ⟨f, hf⟩ := hname rfl
    cases f <;> exact absurd hf (by decide)

end Setting

end Exemplar

import Exemplar.Config.Basic

/-!
Layers of settings. Each source of settings gives a layer, which may leave any of them out. Layers
are put over each other key by key, and only what comes out is looked at: a value of the wrong form
does no harm under a layer that sets the same key.
-/

namespace Exemplar

/-- A value as a source gives it. Every setting is text, so other values need not be told apart. -/
inductive SourceValue where
  | text (s : String)
  | other
  deriving DecidableEq, Repr

/-- What one source says about the settings. -/
structure Layer where
  logFilter : Option SourceValue
  logFormat : Option SourceValue
  nameSeparator : Option SourceValue
  deriving DecidableEq, Repr

namespace Layer

def empty : Layer := ⟨none, none, none⟩

/-- The layer of a source that says what some settings are. -/
def ofTexts (filter format separator : Option String) : Layer :=
  ⟨filter.map .text, format.map .text, separator.map .text⟩

def defaults : Layer :=
  ofTexts (some Config.defaultLogFilter) (some Config.defaultLogFormat.name)
    (some Config.defaultNameSeparator)

/-- The layer with the setting of a name set. Other names mean nothing. -/
def put (l : Layer) (key : String) (value : SourceValue) : Layer :=
  if key = "log_filter" then { l with logFilter := some value }
  else if key = "log_format" then { l with logFormat := some value }
  else if key = "name_separator" then { l with nameSeparator := some value }
  else l

def above (upper lower : Layer) : Layer :=
  ⟨upper.logFilter <|> lower.logFilter, upper.logFormat <|> lower.logFormat,
    upper.nameSeparator <|> lower.nameSeparator⟩

/-- The settings that all layers together give: text of the right form for each of them, and a
separator that is not empty. -/
def toConfig (l : Layer) : Except ConfigError Config :=
  match l.logFilter, l.logFormat, l.nameSeparator with
  | some (.text filter), some (.text format), some (.text separator) =>
    match LogFormat.ofName? format with
    | some format => Config.checked ⟨filter, format, separator⟩
    | none => .error .load
  | _, _, _ => .error .load

end Layer

end Exemplar

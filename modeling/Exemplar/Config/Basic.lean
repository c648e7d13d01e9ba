import Exemplar.Text.Digits
import Exemplar.Text.Inspection

namespace Exemplar

open Text (Inspection)

/-- The two layouts of a written event. -/
inductive LogFormat where
  | json
  | compact
  deriving DecidableEq, Repr, Inhabited

namespace LogFormat

def name : LogFormat → String
  | json => "json"
  | compact => "compact"

def ofName? (s : String) : Option LogFormat :=
  if s = "json" then some json else if s = "compact" then some compact else none

/-- The format of this name in any case of its ASCII letters. -/
def ofNameAnyCase? (s : String) : Option LogFormat := 
  ofName? (Text.asciiLower s)

def inspect : LogFormat → Inspection
  | json => .atom "Json"
  | compact => .atom "Compact"

end LogFormat

structure Config where
  logFilter : String
  logFormat : LogFormat
  nameSeparator : String
  deriving DecidableEq, Repr

inductive ConfigError where
  /-- A source of settings could not be read, or their values have the wrong form. -/
  | load
  | emptySeparator
  deriving DecidableEq, Repr

namespace Config

def defaultLogFilter : String := "warn"

def defaultLogFormat : LogFormat := .compact

def defaultNameSeparator : String := " "

def logFilterVariable : String := "SPROUT_LOG_FILTER"

def logFormatVariable : String := "SPROUT_LOG_FORMAT"

def nameSeparatorVariable : String := "SPROUT_NAME_SEPARATOR"

def default : Config := ⟨defaultLogFilter, defaultLogFormat, defaultNameSeparator⟩

instance : Inhabited Config := ⟨default⟩

/-- Refuses settings without a separator. -/
def checked (c : Config) : Except ConfigError Config :=
  if c.nameSeparator = "" then .error .emptySeparator else .ok c

def withLogFilter (c : Config) (filter : String) : Config := { c with logFilter := filter }

def withLogFormat (c : Config) (format : LogFormat) : Config := { c with logFormat := format }

def withNameSeparator (c : Config) (separator : String) : Except ConfigError Config :=
  checked { c with nameSeparator := separator }

def inspect (c : Config) : Inspection :=
  .record "Config"
    [("log_filter", .text c.logFilter), ("log_format", c.logFormat.inspect),
      ("name_separator", .text c.nameSeparator)] true

end Config

/-- The text shown to a user. Why a source could not be read is not part of it. -/
def ConfigError.message : ConfigError → String
  | load => "failed to load configuration: "
  | emptySeparator => Config.nameSeparatorVariable ++ " must not be empty"

end Exemplar

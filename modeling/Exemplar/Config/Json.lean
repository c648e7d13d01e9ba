import Exemplar.Config.Basic
import Exemplar.Text.Json.Reader
import Exemplar.Text.Json.Writer

namespace Exemplar

open Text (Json)

/-- A format is written as its name; read, the name may also be the only key of an object. -/
def LogFormat.ofJson? : Json → Option LogFormat
  | .text (some name) => ofName? name
  | .object [(some name, .null)] => ofName? name
  | _ => none

namespace Config

def toJson (c : Config) : Json :=
  .ofMembers
    [("log_filter", .ofString c.logFilter), ("log_format", .ofString c.logFormat.name),
      ("name_separator", .ofString c.nameSeparator)]

def ofJson? (j : Json) : Option Config :=
  match j.record? ["log_filter", "log_format", "name_separator"] with
  | some [filter, format, separator] =>
    return ⟨← filter.string?, ← LogFormat.ofJson? format, ← separator.string?⟩
  | _ => none

def encode (c : Config) : String := c.toJson.render

def decode? (s : String) : Option Config := Json.parse s >>= ofJson?

end Config

end Exemplar

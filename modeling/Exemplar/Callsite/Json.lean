import Exemplar.Callsite
import Exemplar.Text.Json.Reader
import Exemplar.Text.Json.Writer

namespace Exemplar.Callsite

open Text (Json)

def toJson (c : Callsite) : Json :=
  .ofMembers [("file", .ofString c.file), ("line", .ofNat c.line.toNat)]

def ofJson? (j : Json) : Option Callsite :=
  match j.record? ["file", "line"] with
  | some [file, line] => return ⟨← file.string?, ← line.uint32?⟩
  | _ => none

def encode (c : Callsite) : String := c.toJson.render

def decode? (s : String) : Option Callsite := Json.parse s >>= ofJson?

end Exemplar.Callsite

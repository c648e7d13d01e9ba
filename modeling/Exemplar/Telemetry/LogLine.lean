import Exemplar.Event.Basic
import Exemplar.Text.Json.Writer

namespace Exemplar

open Text (Json)

/-- A value in a line of text. Text that is a value in its own right is quoted. -/
def FieldValue.display : FieldValue → String
  | text s => Text.quoted s
  | shown s => s
  | count n => toString n
  | flag b => if b then "true" else "false"

def FieldValue.toJson : FieldValue → Json
  | text s | shown s => .ofString s
  | count n => .ofNat n
  | flag b => .bool b

namespace Event

/-- The level, aligned to the right, the target, the message and the fields. -/
def compactLine (e : Event) : String :=
  String.ofList (List.replicate (5 - e.level.label.length) ' ') ++ e.level.label ++ " " ++
    e.target ++ ": " ++ e.message ++
    String.join (e.fields.map fun f => " " ++ f.1 ++ "=" ++ f.2.display)

def toJson (e : Event) : Json :=
  .ofMembers
    ([("level", .ofString e.level.label), ("message", .ofString e.message)] ++
      e.fields.map (fun f => (f.1, f.2.toJson)) ++ [("target", .ofString e.target)])

def logLine (e : Event) : LogFormat → String
  | .json => e.toJson.render
  | .compact => e.compactLine

end Event

end Exemplar

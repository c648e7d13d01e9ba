import Exemplar.Text.Quoted

namespace Exemplar.Text

/-- The structure that a value shows. -/
inductive Inspection where
  | atom (s : String)
  | text (s : String)
  | list (items : List Inspection)
  /-- A named tuple, such as an optional value that is present. -/
  | tuple (name : String) (items : List Inspection)
  /-- A named record; `complete` is false if it has fields that are not shown. -/
  | record (name : String) (fields : List (String × Inspection)) (complete : Bool)
  deriving Inhabited

/-- On one line, or as a block whose closing line is indented by `depth` steps. -/
inductive Layout where
  | line
  | block (depth : Nat)

namespace Layout

def inner : Layout → Layout
  | line => line
  | block depth => block (depth + 1)

def margin (depth : Nat) : String := String.ofList (List.replicate (4 * depth) ' ')

/-- Parts between two brackets; `gap` stands inside the brackets when all is on one line. Of a
block, every part has a line of its own and ends in a comma, a closing ellipsis apart. -/
def enclose (layout : Layout) (opening closing gap : String) (parts : List String)
    (ellipsis : Bool) : String :=
  if parts.isEmpty && !ellipsis then opening ++ closing else
  match layout with
  | line =>
    opening ++ gap ++ ", ".intercalate (if ellipsis then parts ++ [".."] else parts) ++ gap ++ closing
  | block depth =>
    let rows := parts.map (· ++ ",") ++ (if ellipsis then [".."] else [])
    opening ++ "\n" ++ String.join (rows.map fun row => margin (depth + 1) ++ row ++ "\n") ++
      margin depth ++ closing

end Layout

namespace Inspection

mutual

def render (layout : Layout) : Inspection → String
  | atom s => s
  | text s => quoted s
  | list items => layout.enclose "[" "]" "" (renderAll layout.inner items) false
  | tuple name items =>
    if items.isEmpty then name
    else name ++ layout.enclose "(" ")" "" (renderAll layout.inner items) false
  | record name fields complete =>
    if fields.isEmpty && complete then name
    else name ++ layout.enclose " \x7b" "\x7d" " " (renderFields layout.inner fields) (!complete)

def renderAll (layout : Layout) : List Inspection → List String
  | [] => []
  | item :: items => render layout item :: renderAll layout items

def renderFields (layout : Layout) : List (String × Inspection) → List String
  | [] => []
  | (name, value) :: fields => (name ++ ": " ++ render layout value) :: renderFields layout fields

end

def oneLine (i : Inspection) : String := i.render .line

def indented (i : Inspection) : String := i.render (.block 0)

def count (n : Nat) : Inspection := atom (toString n)

def flag (b : Bool) : Inspection := atom (if b then "true" else "false")

/-- An optional value: `None`, or `Some` with the value inside. -/
def option : Option Inspection → Inspection
  | none => atom "None"
  | some i => tuple "Some" [i]

end Inspection

end Exemplar.Text

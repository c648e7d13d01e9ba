import Exemplar.Config.Guess
import Exemplar.Text.Split

namespace Exemplar

/-- Variables and their values, the variable that was set first in front. -/
abbrev Environment := List (String × String)

namespace Environment

def update (env : Environment) (name : String) (value : Option String) : Environment :=
  match value with
  | none => env.filter (·.1 ≠ name)
  | some value =>
    if env.any (·.1 == name) then env.map fun v => if v.1 = name then (name, value) else v
    else env ++ [(name, value)]

/-- What the name of a variable starts with if it means a setting, in lower case. -/
def leader : List Char := "sprout_".toList

/-- Turns every pair of underscores into a point. -/
def pointed : List Char → List Char
  | '_' :: '_' :: rest => '.' :: pointed rest
  | c :: rest => c :: pointed rest
  | [] => []

/-- The path of keys that the name of a variable stands for, if it means a setting. No key of a path
is empty. -/
def keyPath? (name : String) : Option (List String) :=
  let cs := (Text.trimBlank name.toList).map Char.toLower
  if leader.isPrefixOf cs then
    let path := Text.splitAtChar '.' (pointed (cs.drop leader.length))
    if path.any List.isEmpty then none else some (path.map String.ofList)
  else none

/-- The layer of the environment: of variables for one setting the last one counts. A longer path
makes an object of its first key. -/
def layer (env : Environment) : Layer :=
  env.foldl (fun l v =>
    match keyPath? v.1 with
    | some [key] => l.put key (Guess.value v.2)
    | some (key :: _) => l.put key .other
    | _ => l) .empty

end Environment

end Exemplar

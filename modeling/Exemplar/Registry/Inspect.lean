import Exemplar.Registry.Basic
import Exemplar.Tree.Inspect

namespace Exemplar

open Text (Inspection)

def Slot.inspect {β : Type} (slot : Slot β) : Inspection :=
  .record "SpecRoot"
    [("name", .text slot.name),
      ("compiled", .option (slot.compiled.map fun
        | .ok tree => .tuple "Ok" [tree.inspect]
        | .error e => .tuple "Err" [e.inspect])),
      ("compilations", .count slot.compilations)] false

end Exemplar
